import Mathlib.Data.List.Forall2
import ODataQuery.Proofs.Entity.Paths

/-! The choices of a descriptor. They are the values of the field that it was made from, also where its
path leads on to a field of a nested entity. A nested entity has no values of its own, so that one which
is shown by a choice is of that type but has nothing to choose from. -/
namespace ODataQuery

namespace Entity

variable {fields : List Field} {name other : String} {c : Field}

/-- Names that differ in case alone find the same field. -/
theorem findField?_congr (alike : Text.equalsIgnoringCase name other = true) :
    findField? fields name = findField? fields other := by
  rw [Text.equalsIgnoringCase, beq_iff_eq] at alike
  simp only [findField?, Text.equalsIgnoringCase, alike]

theorem findField?_name (found : findField? fields name = some c) :
    findField? fields c.name = some c := by
  have alike : Text.equalsIgnoringCase c.name name = true := by simpa using List.find?_some found
  rw [findField?_congr alike, found]

end Entity

/-- A path leads from a field to itself, or to a field of the entity nested in it that has the last name
of the path. -/
inductive Field.LeadsTo (f : Field) : String → Field → Prop
  | itself : LeadsTo f f.name f
  | child {entity : String} {fields : List Field} {c : Field} :
      f.type = .nested entity fields → Entity.findField? fields c.name = some c →
      LeadsTo f (f.name ++ "." ++ c.name) c

theorem Field.LeadsTo.unique {f c d : Field} {path : String} (h : f.LeadsTo path c)
    (other : f.LeadsTo path d) : c = d := by
  have longer (name : String) : f.name ≠ f.name ++ "." ++ name := by
    intro same
    have lengths := congrArg (fun s : String => s.toList.length) same
    simp at lengths
  generalize same : path = path' at other
  cases h with
  | itself =>
    cases other with
    | itself => rfl
    | child => exact absurd same (longer _)
  | child type found =>
    cases other with
    | itself => exact absurd same.symm (longer _)
    | child type' found' =>
      have names : c.name = d.name := by simpa [← String.toList_inj] using same
      rw [type] at type'
      cases type'
      rw [names, found'] at found
      exact (Option.some.inj found).symm

namespace Descriptor

/-- A nested entity is shown by a field that its name finds. -/
theorem child?_found {display : Option String} {fields : List Field} {c : Field}
    (shown : child? display fields = some c) : Entity.findField? fields c.name = some c := by
  have plain {name : String}
      (h : (Entity.findField? fields name).filter (fun f => !f.type.isNested) = some c) :
      Entity.findField? fields c.name = some c :=
    Entity.findField?_name (Option.filter_eq_some_iff.mp h).1
  rw [child?] at shown
  rcases Option.or_eq_some_iff.mp shown with declared | ⟨-, preferred⟩
  · obtain ⟨name, -, h⟩ := Option.bind_eq_some_iff.mp declared
    exact plain h
  · obtain ⟨name, -, h⟩ := List.exists_of_findSome?_eq_some preferred
    exact plain h

theorem choice_of_valueType {t : FieldType} (h : t.valueType = .enumeration) :
    t = .choice t.choices := by
  cases t with
  | choice => rfl
  | text | guid | integer | decimal | boolean | timestamp | date | nested => cases h

/-- What a descriptor says about the field that its path leads to. -/
structure Describes (d : Descriptor) (f target : Field) : Prop where
  leads : f.LeadsTo d.path target
  typed : d.valueType = .enumeration → target.type.valueType = .enumeration
  direct : d.isComplex = false → d.choices = target.type.choices
  nested : d.isComplex = true → d.choices = []

theorem exists_described (f : Field) : ∃ target, (ofField f).Describes f target := by
  obtain ⟨name, type, filterable, sortable, display⟩ := f
  cases type with
  | text | guid | integer | decimal | boolean | timestamp | date | choice =>
    exact ⟨_, .itself, id, fun _ => rfl, fun complex => by cases complex⟩
  | nested entity fields =>
    cases shown : child? display fields with
    | none =>
      have described : ofField ⟨name, .nested entity fields, filterable, sortable, display⟩ =
          ⟨name, name, .complex, .string, filterable, sortable, none, []⟩ := by
        simp only [ofField, shown]
        rfl
      rw [described]
      exact ⟨_, .itself, fun typed => (by cases typed), fun direct => (by cases direct), fun _ => rfl⟩
    | some c =>
      have described : ofField ⟨name, .nested entity fields, filterable, sortable, display⟩ =
          ⟨name, name ++ "." ++ c.name, .complex, c.type.valueType, filterable, sortable, some c.name,
            []⟩ := by
        simp only [ofField, shown]
        rfl
      rw [described]
      exact ⟨c, .child rfl (child?_found shown), id, fun direct => (by cases direct), fun _ => rfl⟩

/-- Each descriptor of an entity, and its column, has the path of one field, which is the field that it
was made from or one of an entity nested there. Where it is of an enumeration type that field is a choice
between some values, but its own choices are these values only when it was made from the field itself:
those of a nested entity are none. -/
theorem choices_resolve (e : Entity) (selection : Selection) :
    List.Forall₂
      (fun f d => ∃ target, f.LeadsTo d.path target ∧
        (∀ other, f.LeadsTo d.path other → other = target) ∧
        (Column.ofDescriptor d).field = d.path ∧ (Column.ofDescriptor d).choices = d.choices ∧
        (d.valueType = .enumeration → ∃ values, target.type = .choice values ∧
          d.choices = if d.isComplex then [] else values))
      (e.fields.filter fun f => !selection.excludes f.name) (resolve e selection) := by
  rw [resolve, List.forall₂_map_right_iff, List.forall₂_same]
  intro f _
  obtain ⟨target, described⟩ := exists_described f
  refine ⟨target, described.leads, fun other leads => leads.unique described.leads, rfl, rfl,
    fun typed => ⟨target.type.choices, choice_of_valueType (described.typed typed), ?_⟩⟩
  split
  next complex => exact described.nested complex
  next direct => exact described.direct (Bool.eq_false_iff.mpr direct)

/-- An order has a status, which is shown by the name of it, one of two. -/
def order : Entity :=
  ⟨"Order", [{ name := "Status",
               type := .nested "Status" [{ name := "Name", type := .choice ["Open", "Closed"] }] }]⟩

/-- There is nothing to choose a status from. -/
theorem choices_of_nested :
    ∃ status d, order.fields = [status] ∧ resolve order {} = [d] ∧ d.valueType = .enumeration ∧
      d.path = "Status.Name" ∧
      status.LeadsTo "Status.Name" { name := "Name", type := .choice ["Open", "Closed"] } ∧
      d.choices = [] ∧ (Column.ofDescriptor d).choices = [] := by
  have path : "Status" ++ "." ++ "Name" = "Status.Name" := by decide
  have found (c : Field) : Entity.findField? [c] c.name = some c := by
    simp [Entity.findField?, Text.equalsIgnoringCase]
  refine ⟨_, _, rfl, rfl, rfl, by decide, ?_, rfl, rfl⟩
  rw [← path]
  exact .child (c := { name := "Name", type := .choice ["Open", "Closed"] }) rfl (found _)

end Descriptor

end ODataQuery
