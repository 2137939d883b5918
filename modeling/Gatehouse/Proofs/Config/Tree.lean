import Gatehouse.Config.Setting
import Mathlib.Data.List.Basic

/-!
# Changes of a tree at paths apart

Names lead through tables to a setting (`Setting.at?`). A path is apart from them if both go on with
different names at some table (`Apart`). A change at such a path leaves the setting as it is
(`Setting.at?_update`), and where there is a setting, the change and the putting of another one in
its place may come in either order (`Setting.update_put`). So a setting may as well be put in its
place after all settings whose paths are apart (`Setting.putAll_put`). Without a setting the order
would matter: it tells which member of a table is added first.
-/

namespace Gatehouse

/-- Whether a path parts from a path of names: after some common names, both go on with a name, and
the two differ. -/
inductive Apart : List String → List PathStep → Prop where
  | here {name other : String} (h : name ≠ other) (names : List String) (path : List PathStep) :
    Apart (name :: names) (.member other :: path)
  | there (name : String) {names : List String} {path : List PathStep} (h : Apart names path) :
    Apart (name :: names) (.member name :: path)

namespace Setting

variable {name other : String} {f g : Setting → Setting}

/-! ### The members of one table -/

theorem lookup_alterMember_self (name : String) (f : Setting → Setting)
    (ms : List (String × Setting)) :
    (alterMember name f ms).lookup name = some (f ((ms.lookup name).getD .absent)) := by
  induction ms with
  | nil => simp [alterMember]
  | cons m ms ih =>
    obtain ⟨n, s⟩ := m
    by_cases hn : n = name
    · simp [alterMember, hn]
    · have hname : (name == n) = false := beq_eq_false_iff_ne.mpr (Ne.symm hn)
      simp [alterMember, hn, List.lookup_cons, hname, ih]

theorem lookup_alterMember_of_lookup {s : Setting} {ms : List (String × Setting)}
    (h : ms.lookup name = some s) (f : Setting → Setting) :
    (alterMember name f ms).lookup name = some (f s) := by
  rw [lookup_alterMember_self, h, Option.getD_some]

theorem lookup_alterMember_ne (h : other ≠ name) (f : Setting → Setting)
    (ms : List (String × Setting)) :
    (alterMember name f ms).lookup other = ms.lookup other := by
  have hother : (other == name) = false := beq_eq_false_iff_ne.mpr h
  induction ms with
  | nil => simp [alterMember, List.lookup_cons, hother]
  | cons m ms ih =>
    obtain ⟨n, s⟩ := m
    by_cases hn : n = name
    · simp [alterMember, hn, List.lookup_cons, hother]
    · simp only [alterMember, hn, if_false, List.lookup_cons, ih]

/-- Two changes of a member are one. -/
theorem alterMember_alterMember (name : String) (f g : Setting → Setting)
    (ms : List (String × Setting)) :
    alterMember name g (alterMember name f ms) = alterMember name (fun s => g (f s)) ms := by
  induction ms with
  | nil => simp [alterMember]
  | cons m ms ih =>
    obtain ⟨n, s⟩ := m
    by_cases hn : n = name
    · simp [alterMember, hn]
    · simp [alterMember, hn, ih]

/-- Two changes of one member that make the same of it are the same. -/
theorem alterMember_congr {s : Setting} {ms : List (String × Setting)}
    (hs : ms.lookup name = some s) (h : f s = g s) :
    alterMember name f ms = alterMember name g ms := by
  induction ms with
  | nil => cases hs
  | cons m ms ih =>
    obtain ⟨n, t⟩ := m
    by_cases hn : n = name
    · have hlookup : List.lookup name ((n, t) :: ms) = some t := by rw [hn, List.lookup_cons_self]
      obtain rfl : t = s := Option.some.inj (hlookup.symm.trans hs)
      simp [alterMember, hn, h]
    · have hname : (name == n) = false := beq_eq_false_iff_ne.mpr (Ne.symm hn)
      rw [List.lookup_cons, hname] at hs
      simp [alterMember, hn, ih hs]

/-- Changes of two members may come in either order if the first of them is there. Else the order
tells which one is added first. -/
theorem alterMember_comm (h : other ≠ name) {ms : List (String × Setting)}
    (hname : (ms.lookup name).isSome = true) (f g : Setting → Setting) :
    alterMember other g (alterMember name f ms) = alterMember name f (alterMember other g ms) := by
  induction ms with
  | nil => cases hname
  | cons m ms ih =>
    obtain ⟨n, s⟩ := m
    by_cases hn : n = name
    · have hother : n ≠ other := hn ▸ h.symm
      simp [alterMember, hn, h.symm]
    · have hne : (name == n) = false := beq_eq_false_iff_ne.mpr (Ne.symm hn)
      rw [List.lookup_cons, hne] at hname
      by_cases hother : n = other
      · simp [alterMember, hother, h]
      · simp [alterMember, hn, hother, ih hname]

/-! ### Settings at paths of names -/

/-- The setting to which names lead, each the name of a member of a table. -/
def at? : List String → Setting → Option Setting
  | [], s => some s
  | name :: names, .table ms => (ms.lookup name).bind (at? names)
  | _ :: _, _ => none

/-- Puts a setting where names lead. -/
def put (names : List String) (v : Setting) (tree : Setting) : Setting :=
  tree.update (fun _ => v) (names.map .member)

variable {names : List String} {path : List PathStep} {tree v w : Setting}

theorem put_cons (name : String) (names : List String) (v tree : Setting) :
    put (name :: names) v tree = .table (alterMember name (put names v) tree.members) := rfl

/-- What was put is there. -/
theorem at?_put (names : List String) (v tree : Setting) :
    at? names (put names v tree) = some v := by
  induction names generalizing tree with
  | nil => rfl
  | cons name names ih =>
    rw [put_cons, at?, lookup_alterMember_self, Option.bind_some]
    exact ih _

/-- What was put last stays. -/
theorem put_put (names : List String) (v w tree : Setting) :
    put names w (put names v tree) = put names w tree := by
  induction names generalizing tree with
  | nil => rfl
  | cons name names ih =>
    simp only [put_cons, members, alterMember_alterMember, ih]

/-- Where names lead, there are tables on the way. -/
theorem exists_of_at?_cons (h : at? (name :: names) tree = some v) :
    ∃ ms s, tree = .table ms ∧ ms.lookup name = some s ∧ at? names s = some v := by
  cases tree with
  | table ms =>
    obtain ⟨s, hs, hv⟩ := Option.bind_eq_some_iff.mp h
    exact ⟨ms, s, rfl, hs, hv⟩
  | _ => cases h

/-- Where two names lead, there is a table in a table. -/
theorem exists_of_at?_pair (h : at? [name, other] tree = some v) :
    ∃ ms s, tree = .table ms ∧ ms.lookup name = some (.table s) ∧ s.lookup other = some v := by
  obtain ⟨ms, t, rfl, ht, hother⟩ := exists_of_at?_cons h
  obtain ⟨s, u, rfl, hu, hv⟩ := exists_of_at?_cons hother
  exact ⟨ms, s, rfl, ht, hu.trans hv⟩

/-- A change at a path apart leaves a setting as it is. -/
theorem at?_update (hapart : Apart names path) (h : at? names tree = some v)
    (f : Setting → Setting) : at? names (tree.update f path) = some v := by
  induction hapart generalizing tree with
  | here hne names path =>
    obtain ⟨ms, s, rfl, hs, hv⟩ := exists_of_at?_cons h
    rw [update, at?, members, lookup_alterMember_ne hne, hs]
    exact hv
  | there name _ ih =>
    obtain ⟨ms, s, rfl, hs, hv⟩ := exists_of_at?_cons h
    rw [update, at?, members, lookup_alterMember_self, hs]
    exact ih hv

/-- What is put in the place of a setting may as well be put there after a change at a path
apart. -/
theorem update_put (hapart : Apart names path) (h : at? names tree = some v) (w : Setting)
    (f : Setting → Setting) :
    (put names w tree).update f path = put names w (tree.update f path) := by
  induction hapart generalizing tree with
  | here hne names path =>
    obtain ⟨ms, s, rfl, hs, -⟩ := exists_of_at?_cons h
    have hpresent := Option.isSome_of_eq_some hs
    simp only [put_cons, update, members, alterMember_comm hne.symm hpresent]
  | there name _ ih =>
    obtain ⟨ms, s, rfl, hs, hv⟩ := exists_of_at?_cons h
    simp only [put_cons, update, members, alterMember_alterMember]
    exact congrArg Setting.table (alterMember_congr hs (ih hv))

theorem putAll_cons (tree : Setting) (p : String × Setting) (named : List (String × Setting)) :
    tree.putAll (p :: named) = (tree.update (onto p.2) (PathStep.ofText p.1)).putAll named := rfl

theorem putAll_append (tree : Setting) (named more : List (String × Setting)) :
    tree.putAll (named ++ more) = (tree.putAll named).putAll more :=
  List.foldl_append

/-- A setting may as well be put in its place after all settings whose paths are apart. -/
theorem putAll_put (h : at? names tree = some v) (w : Setting)
    {named : List (String × Setting)} (hnamed : ∀ p ∈ named, Apart names (PathStep.ofText p.1)) :
    (put names w tree).putAll named = put names w (tree.putAll named) ∧
      at? names (tree.putAll named) = some v := by
  induction named generalizing tree with
  | nil => exact ⟨rfl, h⟩
  | cons p named ih =>
    have hp := hnamed p List.mem_cons_self
    have hrest := ih (at?_update hp h (onto p.2)) fun q hq => hnamed q (List.mem_cons_of_mem p hq)
    refine ⟨?_, hrest.2⟩
    rw [putAll_cons, update_put hp h]
    exact hrest.1

end Setting

end Gatehouse
