import DocSearch.Proofs.Json.Members
import DocSearch.Proofs.Number.Binary64
import Mathlib.Data.List.Perm.Subperm

/-!
# Sameness of values

Two values are the same to a program that compares them if they differ at most in the order of
members and in the sign of zeros. Equality is finer: it tells apart what two texts tell apart.
-/
namespace DocSearch

def Finite64.Same (x y : Finite64) : Prop := x.unsigned = y.unsigned

/-- Not-a-number is not even the same as itself. -/
def Binary64.Same : Binary64 → Binary64 → Prop
  | .finite x, .finite y => x.Same y
  | .infinite s, .infinite t => s = t
  | _, _ => False

namespace Json

/-- An integer and a double differ, whatever their values. -/
def Number.Same : Number → Number → Prop
  | .integer m _, .integer n _ => m = n
  | .double x, .double y => x.Same y
  | _, _ => False

mutual

def Same : Json → Json → Prop
  | .null, .null => True
  | .bool b, .bool c => b = c
  | .number m, .number n => m.Same n
  | .string s, .string t => s = t
  | .array xs, .array ys => ItemsSame xs ys
  | .object xs, .object ys => xs.length = ys.length ∧ MembersFound xs ys
  | _, _ => False

def ItemsSame : List Json → List Json → Prop
  | [], [] => True
  | x :: xs, y :: ys => x.Same y ∧ ItemsSame xs ys
  | _, _ => False

/-- For every member, the one of its key in `others` is the same. -/
def MembersFound : Members → Members → Prop
  | [], _ => True
  | (key, v) :: rest, others =>
    (∃ w, Members.find? key others = some w ∧ v.Same w) ∧ MembersFound rest others

end

@[simp]
theorem array_same_array (xs ys : List Json) :
    (Json.array xs).Same (.array ys) ↔ ItemsSame xs ys := Iff.rfl

@[simp]
theorem object_same_object (xs ys : Members) :
    (Json.object xs).Same (.object ys) ↔ xs.length = ys.length ∧ MembersFound xs ys := Iff.rfl

@[simp]
theorem string_same_string (s t : String) : (Json.string s).Same (.string t) ↔ s = t := Iff.rfl

theorem membersFound_iff (xs ys : Members) :
    MembersFound xs ys ↔ ∀ m ∈ xs, ∃ w, Members.find? m.1 ys = some w ∧ m.2.Same w := by
  induction xs with
  | nil => simp [MembersFound]
  | cons m rest ih => simp [MembersFound, ih]

theorem eq_none_iff_of_rel {a b : Option Json} (related : Option.Rel Same a b) :
    a = none ↔ b = none := by
  cases related <;> simp

/-- Objects are the same if every look-up finds the same in both, or nothing in both. -/
theorem object_same_iff {xs ys : Members} (distinct : (Members.keys xs).Nodup)
    (distinct' : (Members.keys ys).Nodup) :
    (Json.object xs).Same (.object ys) ↔
      ∀ key, Option.Rel Same (Members.find? key xs) (Members.find? key ys) := by
  rw [object_same_object, membersFound_iff]
  constructor
  · rintro ⟨size, found⟩ key
    have included : Members.keys xs ⊆ Members.keys ys := by
      intro k member
      obtain ⟨m, here, rfl⟩ := List.mem_map.mp member
      obtain ⟨w, there, -⟩ := found m here
      refine Decidable.byContradiction fun absent => ?_
      rw [(Members.find?_eq_none_iff _ _).mpr absent] at there
      cases there
    -- as many keys in both, so none of `ys` is missing in `xs`
    have perm : (Members.keys xs).Perm (Members.keys ys) :=
      (List.Nodup.subperm distinct included).perm_of_length_le (by simp [Members.keys, size])
    cases here : Members.find? key xs with
    | none =>
      have absent : key ∉ Members.keys ys := fun member =>
        (Members.find?_eq_none_iff key xs).mp here (perm.mem_iff.mpr member)
      rw [(Members.find?_eq_none_iff key ys).mpr absent]
      exact .none
    | some v =>
      obtain ⟨w, there, same⟩ := found (key, v) ((Members.find?_eq_some_iff distinct key v).mp here)
      rw [there]
      exact .some same
  · intro related
    have perm : (Members.keys xs).Perm (Members.keys ys) := by
      refine (List.perm_ext_iff_of_nodup distinct distinct').mpr fun key => ?_
      have absent : key ∉ Members.keys xs ↔ key ∉ Members.keys ys := by
        rw [← Members.find?_eq_none_iff, ← Members.find?_eq_none_iff]
        exact eq_none_iff_of_rel (related key)
      exact not_iff_not.mp absent
    refine ⟨by simpa [Members.keys] using perm.length_eq, fun m member => ?_⟩
    have looked := related m.1
    rw [(Members.find?_eq_some_iff distinct m.1 m.2).mpr member] at looked
    generalize Members.find? m.1 ys = other at looked
    cases looked with
    | some same => exact ⟨_, rfl, same⟩

/-- Neither equal nor the same. -/
def Apart (v w : Json) : Prop := v ≠ w ∧ ¬ v.Same w

theorem apart_of_member? {v w : Json} (key : String) (present : v.member? key ≠ none)
    (absent : w.member? key = none) : v.Apart w := by
  refine ⟨fun same => present (same ▸ absent), fun same => ?_⟩
  cases v with
  | object xs =>
    cases w with
    | object ys =>
      have listed : key ∈ Members.keys xs :=
        Decidable.byContradiction fun missing =>
          present ((Members.find?_eq_none_iff key xs).mpr missing)
      obtain ⟨m, member, rfl⟩ := List.mem_map.mp listed
      obtain ⟨found, there, -⟩ := (membersFound_iff xs ys).mp same.2 m member
      rw [member?, there] at absent
      cases absent
    | _ => exact same
  | _ => exact present rfl

theorem ofBinary64_same_iff {x y : Binary64} (finite : x.isFinite = true)
    (finite' : y.isFinite = true) : (ofBinary64 x).Same (ofBinary64 y) ↔ x.Same y := by
  cases x <;> cases y <;> simp_all [Binary64.isFinite, Binary64.finite?, ofBinary64, Same,
    Number.Same, Binary64.Same]

theorem ofBinary64_injOn {x y : Binary64} (finite : x.isFinite = true)
    (finite' : y.isFinite = true) (same : ofBinary64 x = ofBinary64 y) : x = y := by
  cases x <;> cases y <;> simp_all [Binary64.isFinite, Binary64.finite?, ofBinary64]

theorem ofUInt64_inj (m n : UInt64) : ofUInt64 m = ofUInt64 n ↔ m = n := by
  simp only [ofUInt64, Number.ofUInt64, Json.number.injEq, Number.integer.injEq]
  exact Int.natCast_inj.trans UInt64.toNat_inj

theorem ofUInt64_same_iff (m n : UInt64) : (ofUInt64 m).Same (ofUInt64 n) ↔ m = n := by
  rw [ofUInt64, ofUInt64, Same]
  exact Int.natCast_inj.trans UInt64.toNat_inj
end Json
end DocSearch
