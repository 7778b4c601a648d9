import Tunables.Schema

/-!
# What a schema admits

A check collects violations and reports one of them.  What it lets through can be
said without violations: the value has one of the types, every required member is
there, and members and items fit the schemas that are given for them.
-/

namespace Tunables

/-- The value of a member; only objects have members. -/
def Json.member? (name : Text) : Json → Option Json
  | .object members => Members.get? members name
  | _ => none

/-- A value has all the members that are required, if it is an object. -/
def HasRequired (required : List Text) : Json → Prop
  | .object members => ∀ name ∈ required, (Members.get? members name).isSome = true
  | _ => True

mutual

/-- A value is as a schema asks for. -/
def Schema.Admits : Schema → Json → Prop
  | .mk types required members items, value =>
      types.any (·.admits value) = true ∧ HasRequired required value ∧
        MembersAdmit members value ∧
        match items, value with
        | some schema, .array parts => ∀ part ∈ parts, schema.Admits part
        | _, _ => True

/-- The members of a value are as their schemas ask for. -/
def MembersAdmit : List (Text × Schema) → Json → Prop
  | [], _ => True
  | (name, schema) :: rest, value =>
      (∀ part, value.member? name = some part → schema.Admits part) ∧ MembersAdmit rest value

end

variable {types : List JsonType} {required : List Text} {path : Path} {value : Json}

theorem ownViolations_eq_nil_iff :
    ownViolations types required path value = [] ↔
      types.any (·.admits value) = true ∧ HasRequired required value := by
  unfold ownViolations
  rw [List.append_eq_nil_iff]
  apply and_congr
  · by_cases admitted : types.any (·.admits value) = true
    · simp [admitted]
    · simp only [admitted, if_false, List.cons_ne_nil, Bool.false_eq_true]
  · cases value with
    | object members =>
        simp only [HasRequired, List.map_eq_nil_iff, List.filter_eq_nil_iff]
        apply forall_congr'
        intro name
        apply forall_congr'
        intro _listed
        cases Members.get? members name with
        | none => simp
        | some part => simp
    | null | bool | int | real | string | array => exact ⟨fun _ => trivial, fun _ => rfl⟩

theorem flatMap_zipIdx_eq_nil_iff {α β : Type} {items : List α} {f : α × Nat → List β} :
    items.zipIdx.flatMap f = [] ↔
      ∀ position (inside : position < items.length), f (items[position], position) = [] := by
  rw [List.flatMap_eq_nil_iff]
  constructor
  · intro none position inside
    exact none _ (List.mk_mem_zipIdx_iff_getElem?.mpr (List.getElem?_eq_getElem inside))
  · intro none entry member
    obtain ⟨item, position⟩ := entry
    obtain ⟨inside, rfl⟩ := List.getElem?_eq_some_iff.mp (List.mk_mem_zipIdx_iff_getElem?.mp member)
    exact none position inside

mutual

/-- A value that a schema admits breaks nothing of it. -/
theorem Schema.violations_eq_nil_iff (schema : Schema) (path : Path) (value : Json) :
    schema.violations path value = [] ↔ schema.Admits value := by
  obtain ⟨types, required, members, items⟩ := schema
  unfold Schema.violations Schema.Admits
  rw [List.append_eq_nil_iff, List.append_eq_nil_iff, ownViolations_eq_nil_iff,
    memberViolations_eq_nil_iff members path value, and_assoc, and_assoc]
  apply and_congr_right
  intro _ownTypes
  apply and_congr_right
  intro _ownRequired
  apply and_congr_right
  intro _ownMembers
  cases items with
  | none => simp
  | some schema =>
      cases value with
      | array parts =>
          rw [flatMap_zipIdx_eq_nil_iff]
          dsimp only
          rw [List.forall_mem_iff_forall_getElem]
          apply forall_congr'
          intro position
          apply forall_congr'
          intro inside
          exact Schema.violations_eq_nil_iff schema _ _
      | null | bool | int | real | string | object => simp

theorem memberViolations_eq_nil_iff (members : List (Text × Schema)) (path : Path)
    (value : Json) :
    memberViolations members path value = [] ↔ MembersAdmit members value := by
  cases members with
  | nil => simp [memberViolations, MembersAdmit]
  | cons entry rest =>
      obtain ⟨name, schema⟩ := entry
      unfold memberViolations MembersAdmit
      rw [List.append_eq_nil_iff, memberViolations_eq_nil_iff rest path value]
      apply and_congr_left
      intro _later
      cases value with
      | object parts =>
          cases found : Members.get? parts name with
          | none => simp [Json.member?, found]
          | some part =>
              simp only [Json.member?, found, Option.some.injEq, forall_eq']
              exact Schema.violations_eq_nil_iff schema _ _
      | null | bool | int | real | string | array => simp [Json.member?]

end

/-- Of some violations one is always reported. -/
theorem reportedViolation_eq_none_iff {violations : List Violation} :
    reportedViolation violations = none ↔ violations = [] := by
  cases violations with
  | nil => exact ⟨fun _ => rfl, fun _ => rfl⟩
  | cons first rest => exact ⟨nofun, nofun⟩

/-- A check lets through what the schema admits, and nothing else. -/
theorem Schema.check_eq_ok_iff {schema : Schema} {value : Json} :
    schema.check value = .ok () ↔ schema.Admits value := by
  rw [← schema.violations_eq_nil_iff [] value, ← reportedViolation_eq_none_iff, Schema.check]
  cases reportedViolation (schema.violations [] value) with
  | none => exact ⟨fun _ => rfl, fun _ => rfl⟩
  | some violation => exact ⟨nofun, nofun⟩

namespace Schema

@[simp] theorem ofType_admits_iff {kind : JsonType} {value : Json} :
    (ofType kind).Admits value ↔ kind.admits value = true := by
  cases value <;> simp [ofType, Admits, MembersAdmit, HasRequired]

@[simp] theorem arrayOf_admits_iff {schema : Schema} {parts : List Json} :
    (arrayOf schema).Admits (.array parts) ↔ ∀ part ∈ parts, schema.Admits part := by
  simp [arrayOf, Admits, MembersAdmit, HasRequired, JsonType.admits]

end Schema
end Tunables
