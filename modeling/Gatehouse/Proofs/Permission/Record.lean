import Gatehouse.Database.Roles
import Gatehouse.Proofs.Json.Outcome
import Gatehouse.Proofs.Json.Record
import Gatehouse.Proofs.Permission.History

/-!
# Roles that are kept and read back

A scope is kept as its text, and the text of the scope of all is also the code of one exact scope.
So storage holds two scopes in one form, and gives back the scope of all for both (`Scope.widened`);
all other scopes, and with them all else of a role, come back as they are. `Settled` says of a
scope, a permission or a role that it does not have the one scope that storage cannot keep. A role
is written as its widened form is (`Role.toJson_widened`), which is settled, and a settled role is
read back as itself, out of a document and out of a row (`Role.readsBackAs_of_settled`). Whatever
has been read is settled (`Role.Stored.settled`).
-/

namespace Gatehouse

open Decoder

/-! ### Scopes -/

namespace Scope

/-- Whether a scope is another one than the exact scope of the wildcard's own text. -/
def Settled (s : Scope) : Prop :=
  s ≠ .exact wildcard

instance (s : Scope) : Decidable s.Settled :=
  inferInstanceAs (Decidable (s ≠ _))

/-- The scope that is read back: the exact scope of the wildcard's own text becomes the scope of
all. -/
def widened (s : Scope) : Scope :=
  if s = .exact wildcard then .any else s

theorem widened_of_settled {s : Scope} (h : s.Settled) : s.widened = s :=
  if_neg h

theorem settled_widened (s : Scope) : s.widened.Settled := by
  unfold widened Settled
  split
  · exact Scope.noConfusion
  · assumption

@[simp] theorem text_widened (s : Scope) : s.widened.text = s.text := by
  unfold widened
  split
  · next h => rw [h, text, text]
  · rfl

theorem settled_ofText (s : String) : (ofText s).Settled := by
  unfold ofText Settled
  split
  · exact Scope.noConfusion
  · next h => exact fun heq => h (Scope.exact.inj heq)

theorem reads_toJson {s : Scope} (h : s.Settled) : Reads decode 0 s.toJson s := by
  have hread := (reads_text s.text).map ofText
  rwa [ofText_text h] at hread

theorem gives_decode : Gives decode Settled :=
  gives_map settled_ofText

end Scope

/-! ### Names -/

theorem ResourceKind.ofName?_name (kind : ResourceKind) : ofName? kind.name = some kind := by
  cases kind <;> decide

theorem Action.ofName?_name (action : Action) : ofName? action.name = some action := by
  cases action <;> decide

theorem AdminSection.ofName?_name (adminSection : AdminSection) :
    ofName? adminSection.name = some adminSection := by
  cases adminSection <;> decide

theorem RoleKind.ofName?_name (kind : RoleKind) : ofName? kind.name = some kind := by
  cases kind <;> decide

/-! ### Permissions -/

/-- Objects may stand in lists. -/
theorem begins_record (ms : List (String × Json)) : Begins Opens (.obj ms) :=
  (begins_obj ms).imp fun b hb => hb ▸ ⟨by decide, by decide⟩

namespace ResourcePermission

/-- Whether both scopes of a permission are settled. -/
structure Settled (p : ResourcePermission) : Prop where
  namespaceScope : p.namespaceScope.Settled
  projectScope : p.projectScope.Settled

/-- The permission that is read back. -/
def widened (p : ResourcePermission) : ResourcePermission :=
  { p with namespaceScope := p.namespaceScope.widened, projectScope := p.projectScope.widened }

variable {p : ResourcePermission}

theorem widened_of_settled (h : p.Settled) : p.widened = p := by
  rw [widened, Scope.widened_of_settled h.namespaceScope, Scope.widened_of_settled h.projectScope]

theorem settled_widened (p : ResourcePermission) : p.widened.Settled :=
  ⟨p.namespaceScope.settled_widened, p.projectScope.settled_widened⟩

theorem toJson_widened (p : ResourcePermission) : p.widened.toJson = p.toJson := by
  simp only [toJson, widened, Scope.toJson, Scope.text_widened]

/-- A settled permission is read back. -/
theorem reads_toJson (h : p.Settled) : Reads decode 1 p.toJson p := by
  intro depth rest hdepth _
  have hns := Scope.reads_toJson h.namespaceScope
  have hproject := Scope.reads_toJson h.projectScope
  have hresource : Reads ResourceKind.decode 0 (.str p.resource.name) p.resource :=
    reads_choice p.resource.ofName?_name
  have haction : Reads Action.decode 0 (.str p.action.name) p.action :=
    reads_choice p.action.ofName?_name
  have hfits : ∀ m ∈ [("namespace", p.namespaceScope.toJson), ("project", p.projectScope.toJson),
      ("resource", .str p.resource.name), ("action", .str p.action.name)], Fits shape 0 m := by
    simpa using ⟨fits_member rfl hns, fits_member rfl hproject, fits_member rfl hresource,
      fits_member rfl haction⟩
  obtain ⟨found, hentries, hfound⟩ := exists_entries 4 hfits (by simp) hdepth rest
  rw [toJson, decode, bind_ok hentries, needed_eq hfound (by simp) rfl hns,
    needed_eq hfound (by simp) rfl hproject, needed_eq hfound (by simp) rfl hresource,
    needed_eq hfound (by simp) rfl haction]
  rfl

theorem reads_listToJson {ps : List ResourcePermission} (h : ∀ p ∈ ps, p.Settled) :
    Reads (list decode) 2 (listToJson ps) ps :=
  reads_list (fun p hp => reads_toJson (h p hp)) fun _ _ => begins_record _

theorem gives_decode : Gives decode Settled := by
  refine (gives_true _).bind fun found _ => ?_
  refine (gives_needed Scope.gives_decode found _).bind fun ns hns => ?_
  refine (gives_needed Scope.gives_decode found _).bind fun project hproject => ?_
  refine (gives_true _).bind fun resource _ => (gives_true _).bind fun action _ => ?_
  exact gives_pure ⟨hns, hproject⟩

end ResourcePermission

namespace AdminPermission

theorem reads_toJson (p : AdminPermission) : Reads decode 1 p.toJson p := by
  intro depth rest hdepth _
  have hsection : Reads AdminSection.decode 0 (.str p.adminSection.name) p.adminSection :=
    reads_choice p.adminSection.ofName?_name
  have haction : Reads Action.decode 0 (.str p.action.name) p.action :=
    reads_choice p.action.ofName?_name
  have hfits : ∀ m ∈ [("section", Json.str p.adminSection.name), ("action", .str p.action.name)],
      Fits shape 0 m := by
    simpa using ⟨fits_member rfl hsection, fits_member rfl haction⟩
  obtain ⟨found, hentries, hfound⟩ := exists_entries 2 hfits (by simp) hdepth rest
  rw [toJson, decode, bind_ok hentries, needed_eq hfound (by simp) rfl hsection,
    needed_eq hfound (by simp) rfl haction]
  rfl

theorem reads_listToJson (ps : List AdminPermission) :
    Reads (list decode) 2 (listToJson ps) ps :=
  reads_list (fun p _ => p.reads_toJson) fun _ _ => begins_record _

end AdminPermission

/-! ### Roles -/

theorem RoleRow.readList_eq_ok_iff {α : Type} {row : RoleRow} {what s : String}
    {words : String → String} {decode : Decoder α} {as : List α} :
    row.readList what words decode s = .ok as ↔ (list decode).run s = .ok as := by
  rw [readList]
  cases (list decode).run s <;> simp [Except.mapError]

namespace Role

/-- Whether all scopes in a role are settled. -/
def Settled (r : Role) : Prop :=
  ∀ p ∈ r.resources, p.Settled

/-- The role that is read back: each exact scope of the wildcard's own text becomes the scope of
all, and all else stays as it is. -/
def widened (r : Role) : Role :=
  { r with resources := r.resources.map ResourcePermission.widened }

/-- Whether a role is read back as some role, out of a document and out of a row. -/
structure ReadsBackAs (r back : Role) : Prop where
  document : decode.run r.toJson.render = .ok back
  row : ∀ words, (RoleRow.ofRole r).toRole words = .ok back

/-- Whether a role has been read out of some document or out of some row. -/
inductive Stored : Role → Prop where
  | document {r : Role} (text : String) (h : decode.run text = .ok r) : Stored r
  | row {r : Role} (words : FaultWords) (row : RoleRow) (h : row.toRole words = .ok r) : Stored r

/-- Whether the permissions of two roles answer all questions alike. -/
def GrantsAlike (r back : Role) : Prop :=
  ∀ {α : Type} (question : Question α),
    question.answer (.ofRoles [back]) = question.answer (.ofRoles [r])

variable {r : Role}

theorem widened_of_settled (h : r.Settled) : r.widened = r := by
  have hmap : r.resources.map ResourcePermission.widened = r.resources := by
    rw [List.map_congr_left fun p hp => ResourcePermission.widened_of_settled (h p hp),
      List.map_id']
  rw [widened, hmap]

theorem settled_widened (r : Role) : r.widened.Settled :=
  List.forall_mem_map.mpr fun p _ => p.settled_widened

theorem listToJson_widened (ps : List ResourcePermission) :
    ResourcePermission.listToJson (ps.map ResourcePermission.widened) =
      ResourcePermission.listToJson ps := by
  rw [ResourcePermission.listToJson, List.map_map]
  exact congrArg Json.arr (List.map_congr_left fun p _ => p.toJson_widened)

/-- A role is written as its widened form is. -/
theorem toJson_widened (r : Role) : r.widened.toJson = r.toJson := by
  simp only [toJson, widened, listToJson_widened]

theorem ofRole_widened (r : Role) : RoleRow.ofRole r.widened = RoleRow.ofRole r := by
  simp only [RoleRow.ofRole, widened, listToJson_widened]

/-- A settled role is read back out of its document. -/
theorem reads_toJson (hid : Decimal.IsInt64 r.id.value) (h : r.Settled) :
    Reads decode 3 r.toJson r := by
  intro depth rest hdepth _
  have hnumber : Reads RoleId.decode 2 r.id.toJson r.id :=
    ((reads_int64 hid).map RoleId.mk).mono (Nat.zero_le 2)
  have hcode := (reads_text r.code).mono (Nat.zero_le 2)
  have hkind : Reads RoleKind.decode 2 (.str r.kind.name) r.kind :=
    (reads_choice r.kind.ofName?_name).mono (Nat.zero_le 2)
  have hresources := ResourcePermission.reads_listToJson h
  have hadmin := AdminPermission.reads_listToJson r.admin
  have hfits : ∀ m ∈ [("id", r.id.toJson), ("code", .str r.code), ("type", .str r.kind.name),
      ("resources", ResourcePermission.listToJson r.resources),
      ("admin", AdminPermission.listToJson r.admin)], Fits shape 2 m := by
    simpa using ⟨fits_member rfl hnumber, fits_member rfl hcode, fits_member rfl hkind,
      fits_member rfl hresources, fits_member rfl hadmin⟩
  obtain ⟨found, hentries, hfound⟩ := exists_entries 3 hfits (by simp) hdepth rest
  rw [toJson, decode, bind_ok hentries, needed_eq hfound (by simp) rfl hnumber,
    needed_eq hfound (by simp) rfl hcode, needed_eq hfound (by simp) rfl hkind,
    orElse_eq hfound (by simp) rfl hresources, orElse_eq hfound (by simp) rfl hadmin]
  rfl

/-- A settled role is read back out of its row. -/
theorem toRole_ofRole (h : r.Settled) (words : FaultWords) :
    (RoleRow.ofRole r).toRole words = .ok r := by
  have hresources : (list ResourcePermission.decode).run
      (ResourcePermission.listToJson r.resources).render = .ok r.resources :=
    run_of_reads (ResourcePermission.reads_listToJson h) (by decide)
  have hadmin : (list AdminPermission.decode).run
      (AdminPermission.listToJson r.admin).render = .ok r.admin :=
    run_of_reads (AdminPermission.reads_listToJson r.admin) (by decide)
  simp only [RoleRow.toRole, RoleRow.ofRole, RoleKind.ofName?_name, RoleRow.readList, hresources,
    hadmin]
  rfl

/-- A settled role is read back as itself. -/
theorem readsBackAs_of_settled (hid : Decimal.IsInt64 r.id.value) (h : r.Settled) :
    r.ReadsBackAs r :=
  ⟨run_of_reads (reads_toJson hid h) (by decide), toRole_ofRole h⟩

theorem gives_decode : Gives decode Settled := by
  refine (gives_true _).bind fun found _ => (gives_true _).bind fun id _ => ?_
  refine (gives_true _).bind fun code _ => (gives_true _).bind fun kind _ => ?_
  refine (gives_orElse (gives_list ResourcePermission.gives_decode) (List.forall_mem_nil _) found
    _).bind fun resources hresources => ?_
  exact (gives_true _).bind fun admin _ => gives_pure hresources

theorem settled_of_toRole {words : FaultWords} {row : RoleRow} (h : row.toRole words = .ok r) :
    r.Settled := by
  rw [RoleRow.toRole] at h
  split at h
  · cases h
  · obtain ⟨resources, hresources, h⟩ := except_bind_eq_ok_iff.mp h
    obtain ⟨admin, -, ⟨⟩⟩ := except_bind_eq_ok_iff.mp h
    exact (gives_list ResourcePermission.gives_decode).of_run
      (RoleRow.readList_eq_ok_iff.mp hresources)

/-- What has been read is settled. -/
theorem Stored.settled (h : r.Stored) : r.Settled := by
  cases h with
  | document text h => exact gives_decode.of_run h
  | row words row h => exact settled_of_toRole h

/-- Every role is read back in its widened form. -/
theorem readsBackAs_widened (r : Role) (hid : Decimal.IsInt64 r.id.value) :
    r.ReadsBackAs r.widened := by
  have h := readsBackAs_of_settled (r := r.widened) hid r.settled_widened
  refine ⟨?_, ?_⟩
  · rw [← r.toJson_widened]
    exact h.document
  · rw [← r.ofRole_widened]
    exact h.row

/-- **Roles are read back with their grants.** Every role is read back in its widened form. That is
the role itself, and answers all questions alike, unless the role has the exact scope of the
wildcard's text; and a role that has been read before is always read back as itself. -/
theorem readsBack_and_grantsAlike (r : Role) (hid : Decimal.IsInt64 r.id.value) :
    r.ReadsBackAs r.widened ∧ (r.Settled → r.widened = r ∧ r.GrantsAlike r.widened) ∧
      (r.Stored → r.ReadsBackAs r) := by
  refine ⟨readsBackAs_widened r hid, fun hsettled => ?_, fun hstored => ?_⟩
  · have hself := widened_of_settled hsettled
    exact ⟨hself, fun question => by rw [hself]⟩
  · exact readsBackAs_of_settled hid hstored.settled

/-- Of two permissions, the one with the exact scope of the wildcard's text is widened. -/
theorem readsBack_and_grantsAlike_wildcard :
    let r : Role := ⟨⟨7⟩, "ops\n", .user, [⟨.any, .exact "a\"b", .all, .read⟩,
      ⟨.exact "*", .exact "", .any, .all⟩], [⟨.all, .read⟩, ⟨.all, .read⟩]⟩
    Decimal.IsInt64 r.id.value ∧ ¬ r.Settled ∧
      r.ReadsBackAs { r with resources := [⟨.any, .exact "a\"b", .all, .read⟩,
        ⟨.any, .exact "", .any, .all⟩] } := by
  refine ⟨by decide, fun h => ?_, (readsBack_and_grantsAlike _ (by decide)).1⟩
  exact (h ⟨.exact "*", .exact "", .any, .all⟩ (by simp)).namespaceScope rfl

end Role

end Gatehouse
