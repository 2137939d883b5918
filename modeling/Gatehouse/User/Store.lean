import Gatehouse.StoreError
import Gatehouse.User.Basic

/-!
# Stores of users

A user store finds users and changes them one at a time. Since the digest of the refresh token is
kept with the user, it is the store of sessions too.
-/

namespace Gatehouse

/-- Finds and changes users. -/
structure UserStore (m : Type → Type) where
  findById : UserId → m (Except StoreError (Option User))
  findByUsername : String → m (Except StoreError (Option User))
  /-- The user that a template names, created if there is none. A user that is there stays as it
  is. -/
  findOrCreate : UserTemplate → m (Except StoreError User)
  /-- Stores the digest of a new password. -/
  updatePassword : UserId → String → m (Except StoreError Unit)
  /-- Stores the digest of the refresh token that is out; none clears it. -/
  updateRefreshDigest : UserId → Option String → m (Except StoreError Unit)

/-- The same store with its calls made somewhere else. -/
def UserStore.lift {m n : Type → Type} (call : {α : Type} → m α → n α) (users : UserStore m) :
    UserStore n where
  findById id := call (users.findById id)
  findByUsername username := call (users.findByUsername username)
  findOrCreate t := call (users.findOrCreate t)
  updatePassword id password := call (users.updatePassword id password)
  updateRefreshDigest id digest := call (users.updateRefreshDigest id digest)

end Gatehouse
