import Gatehouse.Base64
import Gatehouse.Json.Decode
import Gatehouse.Json.Printer
import Gatehouse.Text.Quoted

/-!
# Login bindings

A binding holds what ties the browser that comes back from a provider to the one that was sent
there. It travels in a cookie, as base64 of a JSON object.
-/

namespace Gatehouse

open Decoder

/-- The values that one sign-in is bound to. -/
structure LoginBinding where
  /-- The provider sends it back with the browser. -/
  state : String
  /-- It has to appear in the ID token. -/
  nonce : String
  /-- It proves that the code is exchanged by whoever began the sign-in. -/
  verifier : String
  deriving DecidableEq, Repr

/-- Thirty-two drawn bytes. -/
abbrev Draw := { bytes : Bytes // bytes.length = 32 }

namespace LoginBinding

/-- The text of drawn bytes. -/
def drawnText (draw : Draw) : String :=
  Base64.encode Base64.urlSafe draw.val

/-- A fresh binding. -/
def ofDraws (state nonce verifier : Draw) : LoginBinding :=
  ⟨drawnText state, drawnText nonce, drawnText verifier⟩

/-- The object of a binding. -/
def toJson (b : LoginBinding) : Json :=
  .obj [("nonce", .str b.nonce), ("pkce_verifier", .str b.verifier), ("state", .str b.state)]

/-- The cookie value of a binding. -/
def encode (b : LoginBinding) : String :=
  Base64.encode Base64.urlSafe (Text.utf8 b.toJson.render)

/-- The members of the object of a binding. -/
def shape : List Member :=
  [member "state" text, member "nonce" text, member "pkce_verifier" text]

/-- Reads the object of a binding. -/
def decodeJson : Decoder LoginBinding := do
  let found ← entries shape 3
  let state ← found.needed "state" text
  let nonce ← found.needed "nonce" text
  let verifier ← found.needed "pkce_verifier" text
  pure ⟨state, nonce, verifier⟩

/-- Reads a cookie value. -/
def decode (value : String) : Option LoginBinding :=
  match Base64.decode? Base64.urlSafe value with
  | none => none
  | some bytes =>
    match decodeJson.runBytes bytes with
    | .ok b => some b
    | .error _ => none

/-- The binding as shown to people, without its secrets. -/
def shown (b : LoginBinding) : String :=
  Text.shownRecord "LoginBinding" [("state", Text.quoted b.state)] true

end LoginBinding

end Gatehouse
