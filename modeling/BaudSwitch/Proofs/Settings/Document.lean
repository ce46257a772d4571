import BaudSwitch.Proofs.Text.Utf8
import BaudSwitch.Proofs.Toml.Document
import BaudSwitch.Settings.Storage

/-!
# Settings read back

The document of settings is well formed, names every section and every key once, and gives the
settings back under the keys that they were written under.  Every value is written, so no
built-in one can stand in for it.
-/

namespace BaudSwitch.Settings

open Toml (Scalar Section Value Entries madeOf)

variable (settings : Settings)

/-! ## The document is well formed -/

/-- The name of a section, and its keys. -/
def heads (table : Section) : String × List String :=
  (table.name, table.entries.map Prod.fst)

/-- The sections with their keys, which are the same for all settings. -/
def layout : List (String × List String) :=
  ({} : Settings).sections.map heads

theorem map_heads_sections : settings.sections.map heads = layout := rfl

theorem heads_mem_layout {table : Section} (found : table ∈ settings.sections) :
    heads table ∈ layout :=
  map_heads_sections settings ▸ List.mem_map_of_mem found

theorem bare_layout : ∀ named ∈ layout, Toml.IsBareName named.1 ∧
    (∀ key ∈ named.2, Toml.IsBareName key) ∧ named.2.Nodup := by
  decide

theorem distinct_sections : ∀ table ∈ settings.sections, table.Distinct := fun _ found =>
  (bare_layout _ (heads_mem_layout settings found)).2.2

theorem nodup_sections : (settings.sections.map Section.name).Nodup := by
  have names : settings.sections.map Section.name = layout.map Prod.fst := rfl
  rw [names]
  decide

theorem fits_word32 (word : UInt32) : (Scalar.number word.toNat).Fits :=
  Nat.lt_trans word.toNat_lt (by decide)

theorem fits_sections {settings : Settings} (writable : settings.Writable) :
    ∀ table ∈ settings.sections, ∀ entry ∈ table.entries, entry.2.Fits := by
  obtain ⟨timeout, response, delay⟩ := writable
  have general (on : Bool) : (Scalar.flag on).Fits := trivial
  have port (content : String) : (Scalar.text content).Fits := trivial
  simp only [sections, List.forall_mem_cons, general, port, fits_word32, List.not_mem_nil,
    false_implies, implies_true, and_true, true_and]
  exact ⟨timeout, response, delay⟩

theorem wellFormed_sections {settings : Settings} (writable : settings.Writable) :
    ∀ table ∈ settings.sections, table.WellFormed := by
  intro table found
  obtain ⟨name, keys, -⟩ := bare_layout _ (heads_mem_layout settings found)
  refine ⟨name, fun entry held => ⟨?_, fits_sections writable table found entry held⟩⟩
  exact keys entry.1 (List.mem_map_of_mem held)

/-! ## The values are found again -/

theorem word32?_toNat (word : UInt32) : word32? (.integer word.toNat) = some word := by
  have bounded := word.toNat_lt
  simpa [word32?, number?] using bounded

theorem word64?_toNat (word : UInt64) : word64? (.integer word.toNat) = some word := by
  have bounded := word.toNat_lt
  simpa [word64?, number?] using bounded

/-- A field that a section holds is not the built-in one. -/
theorem field?_made {table : Section} {key : String} {scalar : Scalar} {Kind : Type}
    {builtIn given : Kind} (read : Value → Option Kind) (position : Nat)
    (distinct : table.Distinct) (held : table.entries[position]? = some (key, scalar))
    (reads : read scalar.value = some given) :
    field? (fun key _ => Entries.find? table.made key) key position read builtIn = some given := by
  simp only [field?, Toml.find?_made distinct (List.mem_of_getElem? held), reads]

/-- A section that is there is read field by field, whatever is built in for it. -/
theorem fromSection?_madeOf {table : Section} {Kind : Type} (held : table ∈ settings.sections)
    (read : Fields → Option Kind) (builtIn : Kind) :
    fromSection? ((madeOf settings.sections).find? table.name) read builtIn =
      read fun key _ => Entries.find? table.made key := by
  rw [Toml.find?_madeOf (nodup_sections settings) held]
  rfl

theorem ofEntries?_madeOf : ofEntries? (madeOf settings.sections) = some settings := by
  have distinct := distinct_sections settings
  simp only [sections, List.forall_mem_cons] at distinct
  obtain ⟨general, serial, target, protocol, -⟩ := distinct
  have given {table : Section} {Kind : Type} (position : Nat)
      (held : settings.sections[position]? = some table) (read : Fields → Option Kind) :=
    fromSection?_madeOf settings (List.mem_of_getElem? held) read
  unfold ofEntries?
  -- Whatever the built-in values are, none of them is used.
  extract_lets builtIn
  clear_value builtIn
  rw [given 0 rfl, given 1 rfl, given 2 rfl, given 3 rfl]
  rw [verbose?, field?_made flag? 0 general rfl rfl,
    line?, field?_made text? 0 serial rfl rfl,
    field?_made word32? 1 serial rfl (word32?_toNat _),
    field?_made word32? 2 serial rfl (word32?_toNat _),
    field?_made word64? 3 serial rfl (word64?_toNat _),
    field?_made word64? 4 serial rfl (word64?_toNat _),
    field?_made word64? 5 serial rfl (word64?_toNat _),
    target?, field?_made word32? 0 target rfl (word32?_toNat _),
    field?_made word32? 1 target rfl (word32?_toNat _),
    verifyChecksums?, field?_made flag? 0 protocol rfl rfl]
  rfl

/-! ## The whole document -/

variable {settings : Settings} {text : String}

/-- Every whole number in the settings. -/
def numbers (settings : Settings) : List Nat :=
  [settings.line.initialBaud.toNat, settings.line.targetBaud.toNat,
    settings.line.readTimeout.toNat, settings.line.maxResponse.toNat,
    settings.line.settleDelay.toNat, settings.target.clock.toNat,
    settings.target.baudRegister.toNat]

/-- Rates, clock and address have 32 bits, so only the numbers of 64 bits can be too large. -/
theorem writable_iff : settings.Writable ↔ ∀ number ∈ settings.numbers, number ≤ 2 ^ 63 - 1 := by
  have small (word : UInt32) : word.toNat ≤ 2 ^ 63 - 1 :=
    Nat.le_trans (Nat.le_of_lt word.toNat_lt) (by decide)
  have bound (number : Nat) : number < Toml.numberBound ↔ number ≤ 2 ^ 63 - 1 :=
    Nat.lt_succ_iff (n := 2 ^ 63 - 1)
  simp only [Writable, numbers, bound, small, List.forall_mem_cons, List.not_mem_nil,
    false_implies, implies_true, and_true, true_and]

theorem print?_eq_none_iff : settings.print? = none ↔ ¬ settings.Writable := by
  unfold print?
  split <;> simp [*]

/-- Settings are read back from their document. -/
theorem parse?_of_print? (printed : settings.print? = some text) : parse? text = some settings := by
  have writable : settings.Writable := by
    by_contra refused
    rw [print?_eq_none_iff.mpr refused] at printed
    cases printed
  have table := Toml.parse?_printSections (wellFormed_sections writable)
    (distinct_sections settings) (nodup_sections settings)
  have spelled : settings.print? =
      some (String.ofList (Toml.printSections settings.sections)) := if_pos writable
  obtain rfl := Option.some.inj (spelled.symm.trans printed)
  rw [parse?, table, Option.bind_eq_bind, Option.bind_some, ofEntries?_madeOf]

theorem ofContent_of_print? (printed : settings.print? = some text) :
    ofContent (Utf8.encode text) = .ok settings := by
  rw [ofContent, Utf8.decode?_encode]
  simp only [parse?_of_print? printed]

end BaudSwitch.Settings
