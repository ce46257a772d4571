import BaudSwitch.Proofs.Toml.Document
import Mathlib.Data.List.Nodup

/-!
# What every document keeps to

Whatever a document holds, its whole numbers lie within the bound that it was read with, and none of
its tables names a key twice.  Readers hand over such values only, and building tables from lines
keeps to it, on whatever path a line adds to them.
-/

namespace BaudSwitch.Toml

/-- Whole numbers lie within their bound and no table names a key twice, at any depth. -/
inductive Value.Regular (limits : Limits) : Value → Prop where
  | string (text : String) : Regular limits (.string text)
  | integer {number : Int} (fits : -limits.number ≤ number ∧ number < limits.number) :
      Regular limits (.integer number)
  | float (literal : String) : Regular limits (.float literal)
  | dateTime (literal : String) : Regular limits (.dateTime literal)
  | boolean (flag : Bool) : Regular limits (.boolean flag)
  | array {items : List Value} (held : ∀ item ∈ items, Regular limits item) :
      Regular limits (.array items)
  | table {origin : Origin} {entries : List (String × Value)}
      (distinct : (entries.map Prod.fst).Nodup) (held : ∀ entry ∈ entries, Regular limits entry.2) :
      Regular limits (.table origin entries)
  | tables {elements : List (List (String × Value))}
      (distinct : ∀ entries ∈ elements, (entries.map Prod.fst).Nodup)
      (held : ∀ entries ∈ elements, ∀ entry ∈ entries, Regular limits entry.2) :
      Regular limits (.tables elements)

structure Entries.Regular (limits : Limits) (entries : Entries) : Prop where
  distinct : (entries.map Prod.fst).Nodup
  held : ∀ entry ∈ entries, entry.2.Regular limits

variable {limits : Limits}

theorem Value.Regular.integer_fits {number : Int}
    (regular : (Value.integer number).Regular limits) :
    -limits.number ≤ number ∧ number < limits.number := by
  cases regular with
  | integer fits => exact fits

theorem regular_table_iff {origin : Origin} {entries : Entries} :
    (Value.table origin entries).Regular limits ↔ entries.Regular limits := by
  constructor
  · rintro (_ | _ | _ | _ | _ | _ | ⟨distinct, held⟩)
    exact ⟨distinct, held⟩
  · rintro ⟨distinct, held⟩
    exact .table distinct held

theorem regular_tables_iff {elements : List Entries} :
    (Value.tables elements).Regular limits ↔ ∀ entries ∈ elements, entries.Regular limits := by
  constructor
  · rintro (_ | _ | _ | _ | _ | _ | _ | ⟨distinct, held⟩) entries found
    exact ⟨distinct entries found, held entries found⟩
  · intro regular
    exact .tables (fun entries found => (regular entries found).distinct)
      fun entries found => (regular entries found).held

theorem regular_tables_concat {elements : List Entries} {last : Entries}
    (regular : ∀ entries ∈ elements, entries.Regular limits) (regularLast : last.Regular limits) :
    (Value.tables (elements ++ [last])).Regular limits := by
  apply regular_tables_iff.mpr
  intro entries membership
  rcases List.mem_append.mp membership with earlier | here
  · exact regular entries earlier
  · rw [List.mem_singleton.mp here]
    exact regularLast

/-! ## Tables -/

namespace Entries

variable {entries : Entries} {key : String} {value : Value}

theorem regular_nil : Entries.Regular limits [] :=
  ⟨List.nodup_nil, nofun⟩

theorem mem_of_find? (found : entries.find? key = some value) : (key, value) ∈ entries := by
  obtain ⟨earlier, later, rfl, -⟩ := List.lookup_eq_some_iff.mp found
  simp

/-- What is found under a key is what stands there. -/
theorem Regular.find?_eq_some_iff (regular : entries.Regular limits) :
    entries.find? key = some value ↔ (key, value) ∈ entries :=
  ⟨mem_of_find?, lookup_of_nodup regular.distinct⟩

theorem Regular.of_find? (regular : entries.Regular limits)
    (found : entries.find? key = some value) : value.Regular limits :=
  regular.held (key, value) (mem_of_find? found)

theorem keys_put_subset : ∀ name ∈ (entries.put key value).map Prod.fst,
    name = key ∨ name ∈ entries.map Prod.fst := by
  intro name found
  induction entries with
  | nil => exact .inl (by simpa [put] using found)
  | cons entry rest inductionHypothesis =>
      by_cases same : entry.1 = key
      · rw [put, if_pos same] at found
        simpa [same] using found
      · rw [put, if_neg same, List.map_cons, List.mem_cons] at found
        rw [List.map_cons, List.mem_cons]
        rcases found with here | later
        · exact .inr (.inl here)
        · exact (inductionHypothesis later).imp_right .inr

theorem Regular.put (regular : entries.Regular limits) (regularValue : value.Regular limits) :
    (entries.put key value).Regular limits := by
  induction entries with
  | nil => exact ⟨List.nodup_singleton key, by simpa [Entries.put] using regularValue⟩
  | cons entry rest inductionHypothesis =>
      obtain ⟨distinct, held⟩ := regular
      obtain ⟨fresh, distinctRest⟩ := List.nodup_cons.mp distinct
      obtain ⟨regularEntry, heldRest⟩ := List.forall_mem_cons.mp held
      by_cases same : entry.1 = key
      · rw [Entries.put, if_pos same]
        exact ⟨same ▸ distinct, List.forall_mem_cons.mpr ⟨regularValue, heldRest⟩⟩
      · rw [Entries.put, if_neg same]
        have inner := inductionHypothesis ⟨distinctRest, heldRest⟩
        have stillFresh : entry.1 ∉ (Entries.put rest key value).map Prod.fst := fun found =>
          (keys_put_subset entry.1 found).elim same fresh
        exact ⟨List.nodup_cons.mpr ⟨stillFresh, inner.distinct⟩,
          List.forall_mem_cons.mpr ⟨regularEntry, inner.held⟩⟩

end Entries

namespace Table

/-- A change of a table that keeps its entries regular. -/
def Keeps (limits : Limits) (change : Table → Option Table) : Prop :=
  ∀ table made, change table = some made → table.entries.Regular limits →
    made.entries.Regular limits

variable {table : Table} {value : Value} {change : Table → Option Table}

theorem put_regular (regular : table.entries.Regular limits) (regularValue : value.Regular limits)
    (key : String) : (table.put key value).entries.Regular limits :=
  regular.put regularValue

theorem toValue_regular (regular : table.entries.Regular limits) : table.toValue.Regular limits :=
  regular_table_iff.mpr regular

/-- What a change makes at the end of a path is put back on the way there. -/
theorem keeps_updateAt (keeps : Keeps limits change) (dotted : Bool) (path : List String) :
    Keeps limits (updateAt dotted change path) := by
  intro table made updated regular
  induction path generalizing table made with
  | nil => exact keeps table made updated regular
  | cons key path inductionHypothesis =>
      rw [updateAt] at updated
      split at updated
      next =>
        obtain ⟨child, changed, stored⟩ := Option.bind_eq_some_iff.mp updated
        cases stored
        have regularChild := inductionHypothesis _ child changed Entries.regular_nil
        exact put_regular regular (toValue_regular regularChild) key
      next origin entries found =>
        split at updated
        next => cases updated
        next =>
          obtain ⟨child, changed, stored⟩ := Option.bind_eq_some_iff.mp updated
          cases stored
          have below := regular_table_iff.mp (regular.of_find? found)
          have regularChild := inductionHypothesis _ child changed below
          exact put_regular regular (toValue_regular regularChild) key
      next elements found =>
        obtain ⟨last, ends, updated⟩ := Option.bind_eq_some_iff.mp updated
        obtain ⟨child, changed, stored⟩ := Option.bind_eq_some_iff.mp updated
        cases stored
        have below := regular_tables_iff.mp (regular.of_find? found)
        have regularChild := inductionHypothesis _ child changed
          (below last (List.mem_of_getLast? ends))
        have others (entries) (found : entries ∈ elements.dropLast) :
            Entries.Regular limits entries :=
          below entries (List.dropLast_subset elements found)
        exact put_regular regular (regular_tables_concat others regularChild) key
      next => cases updated

theorem keeps_define (regularValue : value.Regular limits) (path : List String) (key : String) :
    Keeps limits (define path key value) := by
  apply keeps_updateAt
  intro table made defined regular
  dsimp only at defined
  split at defined
  next => cases defined
  next =>
    cases defined
    exact put_regular regular regularValue key

theorem keeps_openTable (path : List String) (key : String) :
    Keeps limits (openTable path key) := by
  apply keeps_updateAt
  intro table made opened regular
  dsimp only at opened
  split at opened
  next =>
    cases opened
    exact put_regular regular (regular_table_iff.mpr Entries.regular_nil) key
  next entries found =>
    cases opened
    have below := regular_table_iff.mp (regular.of_find? found)
    exact put_regular regular (regular_table_iff.mpr below) key
  next => cases opened

theorem keeps_openElement (path : List String) (key : String) :
    Keeps limits (openElement path key) := by
  apply keeps_updateAt
  intro table made opened regular
  dsimp only at opened
  split at opened
  next =>
    cases opened
    apply put_regular regular
    exact regular_tables_iff.mpr (List.forall_mem_singleton.mpr Entries.regular_nil)
  next elements found =>
    cases opened
    have below := regular_tables_iff.mp (regular.of_find? found)
    exact put_regular regular (regular_tables_concat below Entries.regular_nil) key
  next => cases opened

end Table

/-! ## Lines -/

def Item.Regular (limits : Limits) : Item → Prop
  | .assignment _ value => value.Regular limits
  | _ => True

theorem add_regular {draft next : Draft} {item : Item} (regularItem : item.Regular limits)
    (added : draft.add item = some next) (regular : draft.root.entries.Regular limits) :
    next.root.entries.Regular limits := by
  cases item with
  | header key =>
      obtain ⟨root, opened, rest⟩ := Option.bind_eq_some_iff.mp added
      cases rest
      exact Table.keeps_openTable _ _ _ _ opened regular
  | elementHeader key =>
      obtain ⟨root, opened, rest⟩ := Option.bind_eq_some_iff.mp added
      cases rest
      exact Table.keeps_openElement _ _ _ _ opened regular
  | assignment key value =>
      obtain ⟨root, defined, rest⟩ := Option.bind_eq_some_iff.mp added
      cases rest
      exact Table.keeps_updateAt (Table.keeps_define regularItem _ _) _ _ _ _ defined regular

theorem foldlM_keeps {State Step : Type} {add : State → Step → Option State}
    {motive : State → Prop} {steps : List Step} {first last : State}
    (keeps : ∀ step ∈ steps, ∀ state made, add state step = some made → motive state → motive made)
    (added : steps.foldlM add first = some last) (begins : motive first) : motive last := by
  induction steps generalizing first with
  | nil =>
      cases added
      exact begins
  | cons step steps inductionHypothesis =>
      obtain ⟨keepsFirst, keepsOthers⟩ := List.forall_mem_cons.mp keeps
      obtain ⟨next, made, rest⟩ := Option.bind_eq_some_iff.mp added
      exact inductionHypothesis keepsOthers rest (keepsFirst first next made begins)

theorem addAll_regular {items : List Item} {draft last : Draft}
    (regularItems : ∀ item ∈ items, item.Regular limits) (added : draft.addAll items = some last)
    (regular : draft.root.entries.Regular limits) : last.root.entries.Regular limits := by
  refine foldlM_keeps (motive := fun draft : Draft => draft.root.entries.Regular limits) ?_ added
    regular
  intro item found draft next made
  exact add_regular (regularItems item found) made

/-! ## Readers -/

/-- The reader hands over regular values only. -/
def ReadsRegular (limits : Limits) (read : List Char → Option (Value × List Char)) : Prop :=
  ∀ input value rest, read input = some (value, rest) → value.Regular limits

namespace Number

theorem integer?_regular {number : Int} {value : Value}
    (fits : integer? limits number = some value) : value.Regular limits := by
  unfold integer? at fits
  split at fits
  next within =>
    cases fits
    exact .integer within
  next => cases fits

theorem inBase_regular (base : Nat) (accepts : Char → Bool) :
    ReadsRegular limits (inBase limits base accepts) := by
  intro input value rest read
  obtain ⟨⟨spelled, after⟩, -, read⟩ := Option.bind_eq_some_iff.mp read
  obtain ⟨number, fits, same⟩ := Option.bind_eq_some_iff.mp read
  cases same
  exact integer?_regular fits

theorem decimal_regular : ReadsRegular limits (decimal limits) := by
  intro input value rest read
  unfold decimal at read
  dsimp only at read
  split at read
  next =>
    cases read
    exact .float _
  next =>
    cases read
    exact .float _
  next =>
    obtain ⟨⟨whole, afterWhole⟩, -, read⟩ := Option.bind_eq_some_iff.mp read
    obtain ⟨⟨part, afterPart⟩, -, read⟩ := Option.bind_eq_some_iff.mp read
    obtain ⟨⟨power, last⟩, -, read⟩ := Option.bind_eq_some_iff.mp read
    dsimp only at read
    split at read
    next =>
      obtain ⟨number, fits, same⟩ := Option.bind_eq_some_iff.mp read
      cases same
      exact integer?_regular fits
    next =>
      split at read
      next => cases read
      next =>
        cases read
        exact .float _

theorem read_regular : ReadsRegular limits (read limits) := by
  intro input value rest taken
  unfold read at taken
  split at taken
  · exact inBase_regular _ _ _ _ _ taken
  · exact inBase_regular _ _ _ _ _ taken
  · exact inBase_regular _ _ _ _ _ taken
  · exact decimal_regular _ _ _ taken

end Number

theorem DateTime.read_regular : ReadsRegular limits DateTime.read := by
  intro input value rest read
  unfold DateTime.read at read
  dsimp only at read
  split at read
  all_goals
    obtain ⟨after, -, same⟩ := Option.bind_eq_some_iff.mp read
    cases same
    exact .dateTime _

theorem readScalar_regular : ReadsRegular limits (readScalar limits) := by
  intro input value rest read
  unfold readScalar at read
  split at read
  next =>
    cases read
    exact .boolean true
  next =>
    cases read
    exact .boolean false
  next =>
    split at read
    next =>
      obtain ⟨⟨text, after⟩, -, same⟩ := Option.bind_eq_some_iff.mp read
      cases same
      exact .string _
    next =>
      obtain ⟨⟨text, after⟩, -, same⟩ := Option.bind_eq_some_iff.mp read
      cases same
      exact .string _
    next =>
      split at read
      next => exact DateTime.read_regular _ _ _ read
      next => exact Number.read_regular _ _ _ read

section Nested

variable {readValue : List Char → Option (Value × List Char)}
  (reads : ReadsRegular limits readValue)

include reads

theorem readItems_regular {limit : Nat} {input rest : List Char} {values : List Value}
    (read : readItems readValue limit input = some (values, rest)) :
    ∀ value ∈ values, value.Regular limits := by
  induction limit generalizing input values rest with
  | zero => cases read
  | succ limit inductionHypothesis =>
      obtain ⟨start, -, read⟩ := Option.bind_eq_some_iff.mp read
      split at read
      next =>
        cases read
        exact nofun
      next =>
        obtain ⟨⟨value, after⟩, first, read⟩ := Option.bind_eq_some_iff.mp read
        have regular := reads _ value after first
        obtain ⟨next, -, read⟩ := Option.bind_eq_some_iff.mp read
        split at read
        next =>
          obtain ⟨⟨more, last⟩, others, same⟩ := Option.bind_eq_some_iff.mp read
          cases same
          exact List.forall_mem_cons.mpr ⟨regular, inductionHypothesis others⟩
        next =>
          cases read
          exact List.forall_mem_singleton.mpr regular
        next => cases read

theorem readAssignment_regular {input rest : List Char} {assignment : DottedKey × Value}
    (read : readAssignment limits readValue input = some (assignment, rest)) :
    assignment.2.Regular limits := by
  obtain ⟨⟨key, afterKey⟩, -, read⟩ := Option.bind_eq_some_iff.mp read
  obtain ⟨afterSign, -, read⟩ := Option.bind_eq_some_iff.mp read
  obtain ⟨⟨value, after⟩, taken, same⟩ := Option.bind_eq_some_iff.mp read
  cases same
  exact reads _ value after taken

theorem readAssignments_regular {limit : Nat} {input rest : List Char}
    {assignments : List (DottedKey × Value)}
    (read : readAssignments limits readValue limit input = some (assignments, rest)) :
    ∀ assignment ∈ assignments, assignment.2.Regular limits := by
  induction limit generalizing input assignments rest with
  | zero => cases read
  | succ limit inductionHypothesis =>
      obtain ⟨⟨first, after⟩, taken, read⟩ := Option.bind_eq_some_iff.mp read
      have regular := readAssignment_regular reads taken
      dsimp only at read
      split at read
      next =>
        obtain ⟨⟨more, last⟩, others, same⟩ := Option.bind_eq_some_iff.mp read
        cases same
        exact List.forall_mem_cons.mpr ⟨regular, inductionHypothesis others⟩
      next =>
        cases read
        exact List.forall_mem_singleton.mpr regular
      next => cases read

theorem readInline_regular : ReadsRegular limits (readInline limits readValue) := by
  intro input value rest read
  unfold readInline at read
  split at read
  next =>
    cases read
    exact regular_table_iff.mpr Entries.regular_nil
  next =>
    obtain ⟨⟨assignments, after⟩, taken, read⟩ := Option.bind_eq_some_iff.mp read
    obtain ⟨table, defined, same⟩ := Option.bind_eq_some_iff.mp read
    cases same
    apply regular_table_iff.mpr
    refine foldlM_keeps (motive := fun table : Table => table.entries.Regular limits) ?_ defined
      Entries.regular_nil
    intro assignment found table made added
    have regular := readAssignments_regular reads taken assignment found
    exact Table.keeps_define regular _ _ _ _ added

end Nested

theorem readValue_regular (depth : Nat) : ReadsRegular limits (readValue limits depth) := by
  induction depth with
  | zero =>
      intro input value rest read
      exact readScalar_regular input value rest read
  | succ depth inductionHypothesis =>
      intro input value rest read
      unfold readValue at read
      split at read
      next _ _ _ _ sameDepth =>
        cases sameDepth
        obtain ⟨⟨values, after⟩, taken, same⟩ := Option.bind_eq_some_iff.mp read
        cases same
        exact .array (readItems_regular inductionHypothesis taken)
      next _ _ _ _ sameDepth =>
        cases sameDepth
        exact readInline_regular inductionHypothesis _ value rest read
      next => exact readScalar_regular _ value rest read

theorem readItem_regular {input rest : List Char} {item : Item}
    (read : readItem limits input = some (item, rest)) : item.Regular limits := by
  unfold readItem at read
  split at read
  next =>
    obtain ⟨⟨key, after⟩, -, read⟩ := Option.bind_eq_some_iff.mp read
    dsimp only at read
    split at read
    next =>
      cases read
      trivial
    next => cases read
  next =>
    obtain ⟨⟨key, after⟩, -, read⟩ := Option.bind_eq_some_iff.mp read
    dsimp only at read
    split at read
    next =>
      cases read
      trivial
    next => cases read
  next =>
    obtain ⟨⟨assignment, after⟩, taken, same⟩ := Option.bind_eq_some_iff.mp read
    cases same
    exact readAssignment_regular (readValue_regular _) taken

theorem readLines_regular {limit : Nat} {input : List Char} {items : List Item}
    (read : readLines limits limit input = some items) : ∀ item ∈ items, item.Regular limits := by
  induction limit generalizing input items with
  | zero => cases read
  | succ limit inductionHypothesis =>
      unfold readLines at read
      split at read
      next =>
        cases read
        exact nofun
      next =>
        split at read
        next => exact inductionHypothesis read
        next =>
          obtain ⟨⟨item, after⟩, taken, read⟩ := Option.bind_eq_some_iff.mp read
          obtain ⟨next, -, read⟩ := Option.bind_eq_some_iff.mp read
          obtain ⟨more, others, same⟩ := Option.bind_eq_some_iff.mp read
          cases same
          exact List.forall_mem_cons.mpr ⟨readItem_regular taken, inductionHypothesis others⟩

/-- Every document keeps to it. -/
theorem parseWithin?_regular {text : String} {entries : Entries}
    (document : parseWithin? limits text = some entries) : entries.Regular limits := by
  obtain ⟨items, read, document⟩ := Option.bind_eq_some_iff.mp document
  obtain ⟨draft, added, same⟩ := Option.bind_eq_some_iff.mp document
  cases same
  exact addAll_regular (readLines_regular read) added Entries.regular_nil

end BaudSwitch.Toml
