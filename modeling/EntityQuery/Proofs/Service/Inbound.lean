import EntityQuery.Service.Writing
import EntityQuery.Proofs.Fields
import EntityQuery.Proofs.Service.Schema

/-!
# What becomes of a body

The fields of a body go to the properties of an entity by their columns, and to its navigations
otherwise; the properties go to the columns of a row.
-/

set_option autoImplicit false

namespace EntityQuery

/-! ## Fields put over fields -/

namespace Fields

universe u

variable {α : Type u}

theorem get?_overlay {older newer : Fields α} {name : String} {value : α}
    (one : ∀ entry ∈ newer, entry.1 = name → entry.2 = value)
    (held : (∃ entry ∈ newer, entry.1 = name) ∨ older.get? name = some value) :
    (older.overlay newer).get? name = some value := by
  induction newer generalizing older with
  | nil =>
      rcases held with ⟨entry, member, -⟩ | held
      · cases member
      · exact held
  | cons entry rest inductionHypothesis =>
      refine inductionHypothesis (fun other member => one other (List.mem_cons_of_mem _ member)) ?_
      by_cases same : entry.1 = name
      · refine Or.inr ?_
        rw [← same, get?_insert_self, one entry List.mem_cons_self same]
      · rcases held with ⟨other, member, named⟩ | held
        · rcases List.mem_cons.mp member with rfl | inRest
          · exact absurd named same
          · exact Or.inl ⟨other, inRest, named⟩
        · exact Or.inr (by rw [get?_insert_of_ne _ _ (Ne.symm same), held])

theorem get?_overlay_of_absent {older newer : Fields α} {name : String}
    (absent : ∀ entry ∈ newer, entry.1 ≠ name) :
    (older.overlay newer).get? name = older.get? name := by
  induction newer generalizing older with
  | nil => rfl
  | cons entry rest inductionHypothesis =>
      have later : ((older.insert entry.1 entry.2).overlay rest).get? name =
          (older.insert entry.1 entry.2).get? name :=
        inductionHypothesis fun other member => absent other (List.mem_cons_of_mem _ member)
      exact later.trans (get?_insert_of_ne _ _ (Ne.symm (absent entry List.mem_cons_self)))

theorem insert_last {fields : Fields α} {name : String} (value : α)
    (after : ∀ field ∈ fields, field.1 < name) :
    fields.insert name value = fields ++ [(name, value)] := by
  induction fields with
  | nil => rfl
  | cons field rest inductionHypothesis =>
      obtain ⟨held, old⟩ := field
      have before : held < name := after (held, old) List.mem_cons_self
      rw [insert, if_neg (lt_asymm before), if_neg (ne_of_gt before),
        inductionHypothesis fun field member => after field (List.mem_cons_of_mem _ member)]
      rfl

end Fields

namespace Inbound

variable {type : EntityType}

theorem readObject_eq_ok {owner : String} {body : Json} {fields : Fields Json}
    (read : readObject owner body = .ok fields) : body = .object fields := by
  cases body with
  | object held =>
      cases read
      rfl
  | _ => cases read

theorem findNavigation_eq_ok {name : String} {navigation : Navigation}
    (found : findNavigation type name = .ok navigation) :
    type.navigation? name = some navigation := by
  rw [findNavigation] at found
  split at found
  · rename_i held
    rw [held, Except.ok.inj found]
  · cases found

def isPayload (type : EntityType) (field : String × Json) : Bool :=
  !isControl field.1 && (type.column? field.1).isNone && !field.2.isNull

theorem plain_of_isPayload {field : String × Json} (payload : isPayload type field = true) :
    isControl field.1 = false ∧ field.2.isNull = false := by
  simp only [isPayload, Bool.and_eq_true, Bool.not_eq_true'] at payload
  exact ⟨payload.1.1, payload.2⟩

structure Takes (type : EntityType) (start : Entity) (body : Fields Json) (entity : Entity) :
    Prop where
  sorted : start.properties.Sorted → entity.properties.Sorted
  navigations : entity.navigations = start.navigations ++ body.filter (isPayload type)
  property : ∀ name column json, (name, json) ∈ body → isControl name = false →
    type.column? name = some column →
      ∃ value, Literal.coerce column.type json = .ok value ∧ entity.get? name = some value
  other : ∀ name, (∀ json, (name, json) ∈ body →
    isControl name = true ∨ type.column? name = none) → entity.get? name = start.get? name

/-- A field may stand before that goes nowhere. -/
theorem Takes.skip {start entity : Entity} {rest : Fields Json} {name : String} {json : Json}
    (takes : Takes type start rest entity) (noPayload : ¬ isPayload type (name, json) = true)
    (noProperty : ∀ column, isControl name = false → type.column? name ≠ some column) :
    Takes type start ((name, json) :: rest) entity where
  sorted := takes.sorted
  navigations := by rw [takes.navigations, List.filter_cons_of_neg noPayload]
  property := by
    intro other column otherJson member notControl found
    rcases List.mem_cons.mp member with head | inRest
    · cases head
      exact absurd found (noProperty column notControl)
    · exact takes.property other column otherJson inRest notControl found
  other := fun other untouched =>
    takes.other other fun json member => untouched json (List.mem_cons_of_mem _ member)

theorem takeField_cases {start middle : Entity} {name : String} {json : Json}
    (taken : takeField type start (name, json) = .ok middle) :
    (isControl name = true ∧ middle = start) ∨
      (isControl name = false ∧ ∃ column value, type.column? name = some column ∧
        Literal.coerce column.type json = .ok value ∧ middle = start.set name value) ∨
      (isControl name = false ∧ type.column? name = none ∧
        middle = if json.isNull then start else start.setNavigation name json) := by
  rw [takeField] at taken
  split at taken
  · rename_i control
    exact Or.inl ⟨control, (Except.ok.inj taken).symm⟩
  · rename_i plain
    have notControl : isControl name = false := by simpa using plain
    split at taken
    · rename_i column found
      cases coerced : Literal.coerce column.type json with
      | error error =>
          simp only [coerced] at taken
          cases taken
      | ok value =>
          simp only [coerced] at taken
          exact Or.inr (Or.inl ⟨notControl, column, value, found, coerced,
            (Except.ok.inj taken).symm⟩)
    · rename_i absent
      exact Or.inr (Or.inr ⟨notControl, absent, (Except.ok.inj taken).symm⟩)

/-- A field may stand before that is taken over as a property. -/
theorem Takes.consProperty {start entity : Entity} {rest : Fields Json} {name : String}
    {json : Json} {column : Column} {value : Value} (apart : ∀ other, (name, other) ∉ rest)
    (plain : isControl name = false) (found : type.column? name = some column)
    (coerced : Literal.coerce column.type json = .ok value)
    (takes : Takes type (start.set name value) rest entity) :
    Takes type start ((name, json) :: rest) entity where
  sorted := fun sorted => takes.sorted (sorted.insert _ _)
  navigations := by
    rw [takes.navigations, List.filter_cons_of_neg (by simp [isPayload, found])]
    rfl
  property := by
    intro other otherColumn otherJson member notControl otherFound
    rcases List.mem_cons.mp member with head | inRest
    · cases head
      cases found.symm.trans otherFound
      refine ⟨value, coerced, ?_⟩
      rw [takes.other name fun other member => absurd member (apart other)]
      exact Fields.get?_insert_self _ _ _
    · exact takes.property other otherColumn otherJson inRest notControl otherFound
  other := by
    intro other untouched
    have differs : other ≠ name := by
      rintro rfl
      rcases untouched json List.mem_cons_self with control | absent
      · cases plain.symm.trans control
      · cases found.symm.trans absent
    rw [takes.other other fun json member => untouched json (List.mem_cons_of_mem _ member)]
    exact Fields.get?_insert_of_ne _ _ differs

/-- A field may stand before that goes to the end of the navigations. -/
theorem Takes.consPayload {start entity : Entity} {rest : Fields Json} {name : String}
    {json : Json} (payload : isPayload type (name, json) = true)
    (absent : type.column? name = none)
    (after : ∀ held ∈ start.navigations, held.1 < name)
    (takes : Takes type (start.setNavigation name json) rest entity) :
    Takes type start ((name, json) :: rest) entity where
  sorted := takes.sorted
  navigations := by
    have inserted : (start.setNavigation name json).navigations =
        start.navigations ++ [(name, json)] := Fields.insert_last json after
    rw [takes.navigations, inserted, List.append_assoc, List.filter_cons_of_pos payload]
    rfl
  property := by
    intro other column otherJson member notControl found
    rcases List.mem_cons.mp member with head | inRest
    · cases head
      cases absent.symm.trans found
    · exact takes.property other column otherJson inRest notControl found
  other := fun other untouched =>
    takes.other other fun json member => untouched json (List.mem_cons_of_mem _ member)

theorem foldlM_takes {start entity : Entity} {body : Fields Json} (sorted : body.Sorted)
    (after : ∀ held ∈ start.navigations, ∀ field ∈ body, held.1 < field.1)
    (taken : body.foldlM (takeField type) start = .ok entity) : Takes type start body entity := by
  induction body generalizing start with
  | nil =>
      cases taken
      exact ⟨id, by simp, fun _ _ _ member => absurd member List.not_mem_nil, fun _ _ => rfl⟩
  | cons field rest inductionHypothesis =>
      obtain ⟨name, json⟩ := field
      obtain ⟨first, restSorted⟩ := List.pairwise_cons.mp sorted
      have later : ∀ held ∈ start.navigations, ∀ field ∈ rest, held.1 < field.1 :=
        fun held member field inRest => after held member field (List.mem_cons_of_mem _ inRest)
      rw [List.foldlM_cons] at taken
      cases step : takeField type start (name, json) with
      | error error =>
          rw [step] at taken
          cases taken
      | ok middle =>
          rw [step] at taken
          rcases takeField_cases step with
            ⟨control, rfl⟩ | ⟨plain, column, value, found, coerced, rfl⟩ | ⟨plain, absent, rfl⟩
          · exact (inductionHypothesis restSorted later taken).skip (by simp [isPayload, control])
              fun _ notControl => by simp [control] at notControl
          · have apart : ∀ other, (name, other) ∉ rest := fun other member =>
              lt_irrefl name (first (name, other) member)
            exact .consProperty apart plain found coerced
              (inductionHypothesis restSorted later taken)
          · by_cases isNull : json.isNull = true
            · rw [if_pos isNull] at taken
              exact (inductionHypothesis restSorted later taken).skip (by simp [isPayload, isNull])
                fun column _ found => by cases absent.symm.trans found
            · rw [if_neg isNull] at taken
              have before : ∀ held ∈ start.navigations, held.1 < name := fun held member =>
                after held member _ List.mem_cons_self
              refine .consPayload (by simp [isPayload, plain, absent, isNull]) absent before
                (inductionHypothesis restSorted ?_ taken)
              intro held member field inRest
              rcases Fields.mem_insert member with rfl | older
              · exact first field inRest
              · exact later held older field inRest

theorem toEntity_takes {body : Fields Json} {entity : Entity} (sorted : body.Sorted)
    (taken : toEntity type body = .ok entity) : Takes type .empty body entity :=
  foldlM_takes sorted (fun _ member => absurd member List.not_mem_nil) taken

theorem Takes.held {body : Fields Json} {entity : Entity} (takes : Takes type .empty body entity)
    {name : String} {value : Value} (held : entity.get? name = some value) :
    ∃ column json, (name, json) ∈ body ∧ isControl name = false ∧
      type.column? name = some column ∧ Literal.coerce column.type json = .ok value := by
  by_contra unknown
  have untouched : entity.get? name = Entity.empty.get? name := by
    refine takes.other name fun json member => ?_
    by_contra touched
    obtain ⟨plain, column⟩ := not_or.mp touched
    obtain ⟨column, found⟩ := Option.ne_none_iff_exists'.mp column
    have notControl : isControl name = false := by simpa using plain
    obtain ⟨taken, coerced, isTaken⟩ := takes.property name column json member notControl found
    cases held.symm.trans isTaken
    exact unknown ⟨column, json, member, notControl, found, coerced⟩
  rw [untouched] at held
  cases held

end Inbound

theorem Entity.get?_toRow {type : EntityType} {entity : Entity} (apart : type.ColumnsApart)
    (sorted : entity.properties.Sorted)
    (known : ∀ name value, entity.get? name = some value →
      ∃ column, type.column? name = some column)
    {name : String} {column : Column} (found : type.column? name = some column) :
    (entity.toRow type).get? column.storageName = entity.get? name := by
  have sameName : ∀ other value, (other, value) ∈ entity.properties →
      type.storageName other = column.storageName → other = name := by
    intro other value member same
    obtain ⟨otherColumn, otherFound⟩ :=
      known other value ((sorted.mem_iff other value).mp member)
    obtain ⟨isMember, named⟩ := EntityType.column?_eq_some found
    obtain ⟨otherMember, otherNamed⟩ := EntityType.column?_eq_some otherFound
    rw [EntityType.storageName_of_column? otherFound] at same
    rw [← named, ← otherNamed, apart.column_eq otherMember isMember same]
  have storage := EntityType.storageName_of_column? found
  cases held : entity.get? name with
  | none =>
      refine Fields.get?_overlay_of_absent fun entry member same => ?_
      obtain ⟨⟨other, value⟩, inProperties, rfl⟩ := List.mem_map.mp member
      obtain rfl := sameName other value inProperties same
      cases held.symm.trans ((sorted.mem_iff other value).mp inProperties)
  | some value =>
      refine Fields.get?_overlay ?_ (Or.inl ?_)
      · intro entry member same
        obtain ⟨⟨other, otherValue⟩, inProperties, rfl⟩ := List.mem_map.mp member
        obtain rfl := sameName other otherValue inProperties same
        exact Option.some.inj
          (((sorted.mem_iff other otherValue).mp inProperties).symm.trans held)
      · exact ⟨(type.storageName name, value),
          List.mem_map.mpr ⟨(name, value), (sorted.mem_iff name value).mpr held, rfl⟩, storage⟩

theorem Inbound.Takes.get?_toRow {type : EntityType} {body : Fields Json} {entity : Entity}
    (takes : Takes type .empty body entity) (apart : type.ColumnsApart) {name : String}
    {column : Column} (found : type.column? name = some column) :
    (entity.toRow type).get? column.storageName = entity.get? name := by
  refine Entity.get?_toRow apart (takes.sorted Fields.sorted_nil) (fun other value held => ?_)
    found
  obtain ⟨otherColumn, -, -, -, otherFound, -⟩ := takes.held held
  exact ⟨otherColumn, otherFound⟩

end EntityQuery
