import BaudSwitch.Proofs.Toml.Scalar

/-!
# Documents read back

A document that was written section by section is read line by line: a header, then its keys with
their values.  Where no section and no key in a section is named twice, the lines make the table
of the sections, in the order in which they were written.
-/

namespace BaudSwitch.Toml

/-! ## Lines -/

/-- A name that can stand in a document without quotes. -/
def IsBareName (name : String) : Prop :=
  name.toList ≠ [] ∧ ∀ character ∈ name.toList, isBare character = true

instance (name : String) : Decidable (IsBareName name) :=
  decidable_of_iff (name.toList ≠ [] ∧ name.toList.all isBare = true)
    (and_congr_right fun _ => List.all_eq_true)

section Lines

variable {name key : String} {value : Scalar} {rest : List Char}

theorem bare_ne {first : Char} (bare : isBare first = true) (other : Char)
    (special : isBare other = false) : first ≠ other := by
  rintro rfl
  exact absurd bare (by simp [special])

theorem exists_bare (bare : IsBareName name) :
    ∃ first later, name.toList = first :: later ∧ isBare first = true := by
  obtain ⟨first, later, spelled⟩ := List.exists_cons_of_ne_nil bare.1
  exact ⟨first, later, spelled, bare.2 first (spelled ▸ List.mem_cons_self)⟩

theorem skipBlanks_of_not_blank {first : Char} (filled : isBlank first = false) :
    skipBlanks (first :: rest) = first :: rest := by
  simp [skipBlanks, filled]

theorem not_blank_of_bare {first : Char} (bare : isBare first = true) : isBlank first = false := by
  simp only [isBlank, Bool.or_eq_false_iff, beq_eq_false_iff_ne]
  exact ⟨bare_ne bare ' ' rfl, bare_ne bare '\t' rfl⟩

theorem readName_bare (bare : IsBareName name)
    (stops : ∀ first ∈ rest.head?, isBare first = false) :
    readName (name.toList ++ rest) = some (name, rest) := by
  obtain ⟨first, later, spelled, firstBare⟩ := exists_bare bare
  have unquoted : Quoted.readLine (name.toList ++ rest) = none := by
    rw [spelled, List.cons_append, Quoted.readLine]
    · exact fun _ same => bare_ne firstBare '\x22' rfl (List.cons.inj same).1
    · exact fun _ same => bare_ne firstBare '\x27' rfl (List.cons.inj same).1
  have ended : rest.takeWhile isBare = [] ∧ rest.dropWhile isBare = rest := by
    cases rest with
    | nil => exact ⟨rfl, rfl⟩
    | cons character rest => simp [stops character rfl]
  have taken : (name.toList ++ rest).takeWhile isBare = name.toList := by
    rw [List.takeWhile_append_of_pos bare.2, ended.1, List.append_nil]
  have left : (name.toList ++ rest).dropWhile isBare = rest := by
    rw [List.dropWhile_append_of_pos bare.2, ended.2]
  rw [readName, unquoted]
  simp only [taken, left]
  split
  next empty => exact absurd empty bare.1
  next => rw [String.ofList_toList]

theorem readKey_bare (bare : IsBareName name)
    (stops : ∀ first ∈ rest.head?, isBare first = false)
    (alone : (skipBlanks rest).head? ≠ some '.') :
    readKey .standard (name.toList ++ rest) = some (⟨[], name⟩, skipBlanks rest) := by
  have begins : skipBlanks (name.toList ++ rest) = name.toList ++ rest := by
    obtain ⟨first, later, spelled, firstBare⟩ := exists_bare bare
    rw [spelled, List.cons_append, skipBlanks_of_not_blank (not_blank_of_bare firstBare)]
  have names : readNames Limits.standard.names (name.toList ++ rest) =
      some ([name], skipBlanks rest) := by
    rw [show Limits.standard.names = 78 + 1 from rfl, readNames, begins, readName_bare bare stops]
    simp only [Option.bind_eq_bind, Option.bind_some]
    split
    next dotted => exact absurd (dotted ▸ rfl) alone
    next => rfl
  rw [readKey, names]
  rfl

/-- A written value begins neither a list nor a table between braces. -/
theorem exists_print (value : Scalar) : ∃ first later, value.print = first :: later ∧
    first ≠ '[' ∧ first ≠ '\x7b' ∧ isBlank first = false := by
  cases value with
  | text content =>
      obtain ⟨mark, later, spelled, rfl | rfl⟩ := exists_quote content.toList
      · exact ⟨_, later, spelled, by decide, by decide, rfl⟩
      · exact ⟨_, later, spelled, by decide, by decide, rfl⟩
  | number amount =>
      obtain ⟨first, later, spelled, digit, -⟩ := Number.exists_digits amount
      refine ⟨first, later, spelled, Number.digit_ne digit '[' rfl,
        Number.digit_ne digit '\x7b' rfl, ?_⟩
      simp only [isBlank, Bool.or_eq_false_iff, beq_eq_false_iff_ne]
      exact ⟨Number.digit_ne digit ' ' rfl, Number.digit_ne digit '\t' rfl⟩
  | flag on =>
      cases on
      · exact ⟨'f', _, rfl, by decide, by decide, rfl⟩
      · exact ⟨'t', _, rfl, by decide, by decide, rfl⟩

theorem readValue_print (fits : value.Fits) (rest : List Char) :
    readValue .standard Limits.standard.depth (skipBlanks (value.print ++ '\n' :: rest)) =
      some (value.value, '\n' :: rest) := by
  have read := readScalar_print fits rest
  obtain ⟨first, later, spelled, noList, noTable, filled⟩ := exists_print value
  rw [spelled, List.cons_append] at read ⊢
  rw [skipBlanks_of_not_blank filled, readValue, read]
  · exact fun _ _ _ same => noList (List.cons.inj same).1
  · exact fun _ _ _ same => noTable (List.cons.inj same).1

/-- A key with its value, as it stands on a line. -/
def entryLine (entry : String × Scalar) : List Char :=
  entry.1.toList ++ ' ' :: '=' :: ' ' :: entry.2.print

def entryItem (entry : String × Scalar) : Item :=
  .assignment ⟨[], entry.1⟩ entry.2.value

theorem readItem_entryLine {entry : String × Scalar} (bare : IsBareName entry.1)
    (fits : entry.2.Fits) :
    readItem .standard (entryLine entry ++ '\n' :: rest) =
      some (entryItem entry, '\n' :: rest) := by
  obtain ⟨key, value⟩ := entry
  have keyRead : readKey .standard (entryLine (key, value) ++ '\n' :: rest) =
      some (⟨[], key⟩, '=' :: ' ' :: (value.print ++ '\n' :: rest)) := by
    have behind : ∀ first ∈ (' ' :: '=' :: ' ' :: (value.print ++ '\n' :: rest)).head?,
        isBare first = false := by
      rintro _ ⟨⟩
      rfl
    have alone : (skipBlanks (' ' :: '=' :: ' ' :: (value.print ++ '\n' :: rest))).head? ≠
        some '.' := nofun
    have read := readKey_bare bare behind alone
    simpa [entryLine, skipBlanks, isBlank] using read
  have valueRead : readValue .standard Limits.standard.depth
      (skipBlanks (' ' :: (value.print ++ '\n' :: rest))) = some (value.value, '\n' :: rest) :=
    readValue_print fits rest
  have assigned : readAssignment .standard (readValue .standard Limits.standard.depth)
      (entryLine (key, value) ++ '\n' :: rest) =
        some ((⟨[], key⟩, value.value), '\n' :: rest) := by
    rw [readAssignment, keyRead]
    simp only [Option.bind_eq_bind, Option.bind_some, DateTime.expect, beq_self_eq_true, if_true,
      valueRead]
    rfl
  obtain ⟨first, later, spelled, firstBare⟩ := exists_bare bare
  have begins (mark : Char) (special : isBare mark = false) (others : List Char) :
      entryLine (key, value) ++ '\n' :: rest ≠ mark :: others := by
    rw [entryLine, spelled]
    exact fun same => bare_ne firstBare mark special (List.cons.inj same).1
  rw [readItem, assigned]
  · rfl
  · exact fun others => begins '[' rfl _
  · exact fun others => begins '[' rfl _

def headerLine (name : String) : List Char :=
  '[' :: (name.toList ++ [']'])

theorem readItem_headerLine (bare : IsBareName name) :
    readItem .standard (headerLine name ++ '\n' :: rest) =
      some (.header ⟨[], name⟩, '\n' :: rest) := by
  have layout : headerLine name ++ '\n' :: rest =
      '[' :: (name.toList ++ ']' :: '\n' :: rest) := by
    simp [headerLine]
  have behind : ∀ first ∈ (']' :: '\n' :: rest).head?, isBare first = false := by
    rintro _ ⟨⟩
    rfl
  have keyRead := readKey_bare bare behind nofun
  obtain ⟨first, later, spelled, firstBare⟩ := exists_bare bare
  rw [layout, readItem, keyRead]
  · rfl
  · rw [spelled]
    exact fun _ same => bare_ne firstBare '[' rfl (List.cons.inj same).1

/-- Reading these lines gives these items, if there is room for one line more than there are
characters. -/
def Reads (input : List Char) (items : List Item) : Prop :=
  ∀ limit, input.length < limit → readLines .standard limit input = some items

theorem reads_nil : Reads [] [] := by
  rintro (_ | limit) room
  · cases room
  · rfl

variable {items : List Item}

theorem Reads.empty (reads : Reads rest items) : Reads ('\n' :: rest) items := by
  rintro (_ | limit) room
  · cases room
  · exact reads limit (Nat.lt_of_succ_lt_succ room)

/-- A line that begins with something else than a blank, a comment or its end holds an item. -/
theorem Reads.line {line : List Char} {item : Item} {first : Char}
    (begins : line.head? = some first) (filled : isBlank first = false)
    (visible : first ≠ '#' ∧ first ≠ '\n' ∧ first ≠ '\r')
    (read : readItem .standard (line ++ '\n' :: rest) = some (item, '\n' :: rest))
    (reads : Reads rest items) : Reads (line ++ '\n' :: rest) (item :: items) := by
  obtain ⟨later, rfl⟩ := List.head?_eq_some_iff.mp begins
  have uncommented : skipComment (first :: (later ++ '\n' :: rest)) =
      first :: (later ++ '\n' :: rest) := by
    rw [skipComment]
    exact fun _ same => visible.1 (List.cons.inj same).1
  have unfinished : lineEnd? (first :: (later ++ '\n' :: rest)) = none := by
    rw [lineEnd?]
    · exact fun _ same => visible.2.1 (List.cons.inj same).1
    · exact fun _ same => visible.2.2 (List.cons.inj same).1
  have finished : finishLine ('\n' :: rest) = some rest := rfl
  rintro (_ | limit) room
  · cases room
  · have onward := reads limit (by simp at room; omega)
    rw [List.cons_append] at read ⊢
    rw [readLines, skipBlanks_of_not_blank filled, uncommented]
    simp only [unfinished, read, Option.bind_eq_bind, Option.bind_some, finished, onward]
    rfl

theorem not_special_of_bare {first : Char} (bare : isBare first = true) :
    first ≠ '#' ∧ first ≠ '\n' ∧ first ≠ '\r' :=
  ⟨bare_ne bare '#' rfl, bare_ne bare '\n' rfl, bare_ne bare '\r' rfl⟩

end Lines

/-! ## Sections -/

/-- A section that can be read back. -/
structure Section.WellFormed (table : Section) : Prop where
  name : IsBareName table.name
  entries : ∀ entry ∈ table.entries, IsBareName entry.1 ∧ entry.2.Fits

/-- The lines of a section, as they are read. -/
def Section.items (table : Section) : List Item :=
  .header ⟨[], table.name⟩ :: table.entries.map entryItem

section Sections

variable {rest : List Char} {items : List Item}

theorem reads_entries {entries : List (String × Scalar)}
    (wellFormed : ∀ entry ∈ entries, IsBareName entry.1 ∧ entry.2.Fits) (reads : Reads rest items) :
    Reads (entries.flatMap (fun entry => entryLine entry ++ ['\n']) ++ rest)
      (entries.map entryItem ++ items) := by
  induction entries with
  | nil => exact reads
  | cons entry entries inductionHypothesis =>
      obtain ⟨bare, fits⟩ := wellFormed entry List.mem_cons_self
      have onward := inductionHypothesis fun other found => wellFormed other (.tail entry found)
      obtain ⟨first, later, spelled, firstBare⟩ := exists_bare bare
      have begins : (entryLine entry).head? = some first := by
        rw [entryLine, spelled]
        rfl
      have line := onward.line begins (not_blank_of_bare firstBare) (not_special_of_bare firstBare)
        (readItem_entryLine bare fits)
      simpa using line

theorem print_eq (table : Section) :
    table.print = headerLine table.name ++ '\n' ::
      table.entries.flatMap fun entry => entryLine entry ++ ['\n'] := by
  simp [Section.print, headerLine, entryLine]

theorem reads_section {table : Section} (wellFormed : table.WellFormed) (reads : Reads rest items) :
    Reads (table.print ++ rest) (table.items ++ items) := by
  have entries := reads_entries wellFormed.entries reads
  have begins : (headerLine table.name).head? = some '[' := rfl
  have header := entries.line begins rfl (by decide) (readItem_headerLine wellFormed.name)
  rw [print_eq, List.append_assoc, List.cons_append]
  exact header

theorem reads_sections {sections : List Section}
    (wellFormed : ∀ table ∈ sections, table.WellFormed) :
    Reads (printSections sections) (sections.flatMap Section.items) := by
  induction sections using printSections.induct with
  | case1 => exact reads_nil
  | case2 last =>
      have only := reads_section (wellFormed last List.mem_cons_self) reads_nil
      simpa [printSections] using only
  | case3 first rest more inductionHypothesis =>
      have later := inductionHypothesis fun table found => wellFormed table (.tail first found)
      have whole := reads_section (wellFormed first List.mem_cons_self) later.empty
      rw [printSections]
      · exact whole
      · exact more

end Sections

/-! ## Tables -/

namespace Entries

variable {entries more : Entries} {key : String} {value old : Value}

theorem find?_append_new (absent : key ∉ entries.map Prod.fst) :
    Entries.find? (entries ++ more) key = Entries.find? more key := by
  have missed : entries.lookup key = none := by
    rw [List.lookup_eq_none_iff]
    intro entry found
    have different : key ≠ entry.1 := by
      rintro rfl
      exact absent (List.mem_map_of_mem found)
    simpa using different
  rw [find?, List.lookup_append, missed]
  rfl

theorem find?_new (absent : key ∉ entries.map Prod.fst) : entries.find? key = none := by
  have searched := @find?_append_new entries [] key absent
  rwa [List.append_nil] at searched

theorem put_append_new (absent : key ∉ entries.map Prod.fst) :
    Entries.put (entries ++ more) key value = entries ++ Entries.put more key value := by
  induction entries with
  | nil => rfl
  | cons entry entries inductionHypothesis =>
      rw [List.map_cons, List.mem_cons, not_or] at absent
      rw [List.cons_append, put, if_neg (Ne.symm absent.1), inductionHypothesis absent.2,
        List.cons_append]

theorem put_new (absent : key ∉ entries.map Prod.fst) :
    entries.put key value = entries ++ [(key, value)] := by
  have added := @put_append_new entries [] key value absent
  rwa [List.append_nil] at added

end Entries

/-- The entries that a section makes. -/
def Section.made (table : Section) : Entries :=
  table.entries.map fun entry => (entry.1, entry.2.value)

/-- No key of a section is named twice. -/
def Section.Distinct (table : Section) : Prop :=
  (table.entries.map Prod.fst).Nodup

/-- The entries of a whole document. -/
def madeOf (sections : List Section) : Entries :=
  sections.map fun table => (table.name, .table .header table.made)

theorem lookup_of_nodup {Kind : Type} {entries : List (String × Kind)} {key : String} {held : Kind}
    (distinct : (entries.map Prod.fst).Nodup) (found : (key, held) ∈ entries) :
    entries.lookup key = some held := by
  obtain ⟨earlier, later, rfl⟩ := List.append_of_mem found
  refine List.lookup_eq_some_iff.mpr ⟨earlier, later, rfl, fun entry before => ?_⟩
  rw [List.map_append, List.nodup_append] at distinct
  have different := distinct.2.2 _ (List.mem_map_of_mem before) key List.mem_cons_self
  exact bne_iff_ne.mpr different.symm

/-- A section makes what is written under its keys. -/
theorem find?_made {table : Section} {key : String} {scalar : Scalar} (distinct : table.Distinct)
    (held : (key, scalar) ∈ table.entries) : Entries.find? table.made key = some scalar.value := by
  have keys : table.made.map Prod.fst = table.entries.map Prod.fst := by
    simp [Section.made]
  exact lookup_of_nodup (keys ▸ distinct) (List.mem_map_of_mem held)

theorem find?_madeOf {sections : List Section} {table : Section}
    (apart : (sections.map Section.name).Nodup) (held : table ∈ sections) :
    (madeOf sections).find? table.name = some (.table .header table.made) := by
  have names : (madeOf sections).map Prod.fst = sections.map Section.name := by
    simp [madeOf]
  exact lookup_of_nodup (names ▸ apart) (List.mem_map_of_mem held)

section Drafts

variable {made sofar : Entries} {name : String}

/-- A document up to the entries of the section that is being read. -/
def within (made : Entries) (name : String) (sofar : Entries) : Draft where
  root := { entries := made ++ [(name, .table .header sofar)] }
  header := [name]

theorem add_header (absent : name ∉ made.map Prod.fst) (header : List String) :
    Draft.add { root := { entries := made }, header } (.header ⟨[], name⟩) =
      some (within made name []) := by
  simp only [Draft.add, Table.openTable, Table.updateAt, Entries.find?_new absent,
    Option.bind_eq_bind, Option.bind_some, Table.put, Entries.put_new absent]
  rfl

theorem add_entry {entry : String × Scalar} (absent : name ∉ made.map Prod.fst)
    (fresh : entry.1 ∉ sofar.map Prod.fst) :
    Draft.add (within made name sofar) (entryItem entry) =
      some (within made name (sofar ++ [(entry.1, entry.2.value)])) := by
  have opened : (within made name sofar).root.entries.find? name =
      some (.table .header sofar) := by
    rw [within, Entries.find?_append_new absent, Entries.find?, List.lookup_cons_self]
  have defined : Table.define [] entry.1 entry.2.value { origin := .header, entries := sofar } =
      some { origin := .header, entries := sofar ++ [(entry.1, entry.2.value)] } := by
    simp [Table.define, Table.updateAt, Entries.find?_new fresh, Table.put, Entries.put_new fresh]
  have updated : Table.updateAt false (Table.define [] entry.1 entry.2.value) [name]
      (within made name sofar).root = some (within made name
        (sofar ++ [(entry.1, entry.2.value)])).root := by
    rw [Table.updateAt, opened]
    simp only [Table.updateAt, defined, Option.bind_eq_bind, Option.bind_some]
    rw [if_neg (by simp)]
    simp only [Option.pure_def, Table.put, within, Table.toValue,
      Entries.put_append_new absent, Entries.put, if_pos]
  simp only [entryItem, Draft.add]
  change (do
    let root ← Table.updateAt false (Table.define [] entry.1 entry.2.value) [name]
      (within made name sofar).root
    some { within made name sofar with root }) = _
  rw [updated]
  rfl

/-- The entries of a section add up behind what was read before. -/
theorem addAll_entries {entries : List (String × Scalar)} (absent : name ∉ made.map Prod.fst)
    (distinct : (sofar.map Prod.fst ++ entries.map Prod.fst).Nodup) :
    (within made name sofar).addAll (entries.map entryItem) =
      some (within made name (sofar ++ entries.map fun entry => (entry.1, entry.2.value))) := by
  induction entries generalizing sofar with
  | nil => simp [Draft.addAll]
  | cons entry entries inductionHypothesis =>
      have fresh : entry.1 ∉ sofar.map Prod.fst := fun found =>
        (List.nodup_append.mp distinct).2.2 _ found _ List.mem_cons_self rfl
      have onward := @inductionHypothesis (sofar ++ [(entry.1, entry.2.value)])
        (by simpa using distinct)
      rw [Draft.addAll, List.map_cons, List.foldlM_cons, add_entry absent fresh]
      simpa [Draft.addAll] using onward

theorem addAll_sections {sections : List Section} {header : List String}
    (distinct : ∀ table ∈ sections, table.Distinct)
    (apart : (made.map Prod.fst ++ sections.map Section.name).Nodup) :
    ∃ last, Draft.addAll { root := { entries := made }, header }
        (sections.flatMap Section.items) =
      some { root := { entries := made ++ madeOf sections }, header := last } := by
  induction sections generalizing made header with
  | nil => exact ⟨header, by simp [Draft.addAll, madeOf]⟩
  | cons table sections inductionHypothesis =>
      have absent : table.name ∉ made.map Prod.fst := fun found =>
        (List.nodup_append.mp apart).2.2 _ found _ List.mem_cons_self rfl
      have filled := @addAll_entries made [] table.name table.entries absent
        (distinct table List.mem_cons_self)
      obtain ⟨last, onward⟩ := @inductionHypothesis
        (made ++ [(table.name, .table .header table.made)]) [table.name]
        (fun other found => distinct other (.tail table found)) (by simpa using apart)
      refine ⟨last, ?_⟩
      rw [Draft.addAll] at filled onward ⊢
      rw [List.flatMap_cons, Section.items, List.cons_append, List.foldlM_cons,
        add_header absent header]
      simp only [Option.bind_eq_bind, Option.bind_some, List.foldlM_append, filled]
      rw [List.append_assoc] at onward
      exact onward

end Drafts

theorem skipByteOrderMark_printSections (sections : List Section) :
    skipByteOrderMark (printSections sections) = printSections sections := by
  cases sections using printSections.fun_cases with
  | case1 => rfl
  | case2 last => rfl
  | case3 first rest more =>
      rw [printSections]
      · rfl
      · exact more

/-- A document with distinct names, written section by section, is read back as the table of its
sections. -/
theorem parse?_printSections {sections : List Section}
    (wellFormed : ∀ table ∈ sections, table.WellFormed)
    (distinct : ∀ table ∈ sections, table.Distinct)
    (apart : (sections.map Section.name).Nodup) :
    parse? (String.ofList (printSections sections)) = some (madeOf sections) := by
  have read := reads_sections wellFormed _ (Nat.lt_succ_self _)
  obtain ⟨last, added⟩ := @addAll_sections [] sections [] distinct apart
  rw [parse?, parseWithin?, String.toList_ofList]
  simp only [skipByteOrderMark_printSections, read, Option.bind_eq_bind, Option.bind_some]
  change ((Draft.addAll { root := { entries := [] }, header := [] } _).bind _) = _
  rw [added]
  rfl

end BaudSwitch.Toml
