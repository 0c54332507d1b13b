import MapQuery.Proofs.Json.Printed
import MapQuery.Toml.Printer
import MapQuery.Toml.Reader

/-!
# Printed TOML read back

A document that was printed from sections is read as a table of these sections. Names are printed
bare, so they must be bare. Texts may have any characters: what could end a text, and what may not
stand in one, is escaped.

* `readBasic_escaped` -- a text, by induction on its characters;
* `readEntry_printed` -- an entry, up to the end of its line;
* `assign_open`, `openTable_new` -- what entries and headers add to a document in the making;
* `readStatements_entries`, `readStatements_sections` -- lines, by induction on what is left;
* `read_print` -- a document.
-/

namespace MapQuery.Toml

open MapQuery.Text

/-! ## 1. Texts -/

/-- The digits of a character of ASCII are read as the character. -/
theorem readScalar_hexPadded {c : Char} (hc : c.toNat < 128) (r : List Char) :
    readScalar 4 (hexPadded 4 c.toNat ++ r) = .ok ([c], r) := by
  obtain ⟨x₁, x₂, x₃, x₄, hdigits, hhex, hvalue⟩ := Json.hexPadded_ascii c.toNat hc
  have hvalid : (hexToNat [x₁, x₂, x₃, x₄]).isValidChar := hvalue ▸ c.valid
  have hchar : Char.ofNatAux (hexToNat [x₁, x₂, x₃, x₄]) hvalid = c := Char.toNat_inj.mp hvalue
  rw [hdigits]
  show (if [x₁, x₂, x₃, x₄].all isHexDigit = true then
    (if h : (hexToNat [x₁, x₂, x₃, x₄]).isValidChar then
      Except.ok ([Char.ofNatAux (hexToNat [x₁, x₂, x₃, x₄]) h], r) else _) else _) = _
  rw [if_pos hhex, dif_pos hvalid, hchar]

/-- **A character that was escaped is read as itself.** -/
theorem readBasic_escapeChar (fuel : Nat) (c : Char) (r : List Char) :
    readBasic false (fuel + 1) (escapeChar c ++ r) =
      (readBasic false fuel r >>= fun read => .ok (c :: read.1, read.2)) := by
  unfold escapeChar
  split
  · rfl
  · rfl
  · rfl
  · rfl
  · rfl
  · rfl
  · rfl
  · next hquote hslash htab =>
    by_cases hc : (decide (c.toNat < 32) || c.toNat == 127) = true
    · rw [if_pos hc]
      have hlt : c.toNat < 128 := by
        simp only [Bool.or_eq_true, decide_eq_true_eq, beq_iff_eq] at hc
        omega
      show (readScalar 4 (hexPadded 4 c.toNat ++ r) >>= fun part =>
        readBasic false fuel part.2 >>= fun read => .ok (part.1 ++ read.1, read.2)) = _
      rw [readScalar_hexPadded hlt]
      rfl
    · have hplain : isForbidden c = false := by
        rw [Bool.or_eq_true, decide_eq_true_eq, not_or] at hc
        unfold isForbidden
        rw [decide_eq_false hc.1, Bool.eq_false_iff.mpr hc.2]
        rfl
      rw [if_neg hc, List.singleton_append, readBasic, hplain, Bool.false_and,
        if_neg Bool.false_ne_true]
      · rfl
      · exact hquote
      · exact hslash

/-- **A text that was escaped is read as itself**, up to the quotation mark behind it. -/
theorem readBasic_escaped (s r : List Char) (fuel : Nat) (hfuel : s.length < fuel) :
    readBasic false fuel (s.flatMap escapeChar ++ '"' :: r) = .ok (s, r) := by
  induction s generalizing fuel with
  | nil =>
    cases fuel with
    | zero => cases hfuel
    | succ fuel => rfl
  | cons c s ih =>
    cases fuel with
    | zero => cases hfuel
    | succ fuel =>
      rw [List.flatMap_cons, List.append_assoc, readBasic_escapeChar,
        ih fuel (Nat.lt_of_succ_lt_succ hfuel)]
      rfl

theorem escapeChar_ne_nil (c : Char) : escapeChar c ≠ [] := by
  unfold escapeChar
  split <;> try exact List.cons_ne_nil _ _
  split <;> exact List.cons_ne_nil _ _

/-- No escaped character starts like the mark that ends a text. -/
theorem head_escapeChar (c : Char) : ∀ d ∈ (escapeChar c).head?, d ≠ '"' := by
  intro d hd
  unfold escapeChar at hd
  split at hd
  case h_8 hquote _ _ =>
    split at hd
    · cases hd
      decide
    · cases hd
      exact hquote
  all_goals
    cases hd
    decide

/-- A text that was printed starts with one mark, not with three, unless more marks follow. -/
theorem not_marks_escaped (s : List Char) {r : List Char} (hr : ∀ c ∈ r.head?, c ≠ '"') :
    ['"', '"'].isPrefixOf (s.flatMap escapeChar ++ '"' :: r) = false := by
  rw [Bool.eq_false_iff]
  intro h
  obtain ⟨t, ht⟩ := List.isPrefixOf_iff_prefix.mp h
  cases s with
  | nil =>
    obtain ⟨-, ht⟩ := List.cons.inj ht
    exact hr '"' (ht ▸ rfl) rfl
  | cons c s =>
    obtain ⟨d, l, hd⟩ := List.exists_cons_of_ne_nil (escapeChar_ne_nil c)
    rw [List.flatMap_cons, hd] at ht
    have hmark : '"' = d := (List.cons.inj ht).1
    exact head_escapeChar c d (hd ▸ rfl) hmark.symm

/-- **A text that was printed is read back**, if no mark follows. -/
theorem readText_escaped (s : List Char) {r : List Char} (hr : ∀ c ∈ r.head?, c ≠ '"') :
    readText '"' (s.flatMap escapeChar ++ '"' :: r) = .ok (s, r) := by
  have hlength := Json.length_le_flatMap escapeChar_ne_nil s
  unfold readText
  rw [not_marks_escaped s hr, if_neg Bool.false_ne_true]
  unfold readLine
  rw [if_pos rfl]
  refine readBasic_escaped s r _ ?_
  rw [List.length_append]
  omega

/-! ## 2. Names and entries -/

/-- A name that can be printed without marks. -/
def IsBareName (name : String) : Prop := name.toList ≠ [] ∧ ∀ c ∈ name.toList, isBare c = true

instance (name : String) : Decidable (IsBareName name) :=
  decidable_of_iff (name.toList ≠ [] ∧ name.toList.all isBare = true)
    (and_congr_right' List.all_eq_true)

/-- The value that a section holds, as it is read. -/
def Scalar.value : Scalar → Value
  | .text s => .text s
  | .truth b => .truth b

/-- The entries of a section, as they are read. -/
def Section.table (s : Section) : Table := s.entries.map fun e => (e.1, e.2.value)

theorem not_isBare_of_isGap {c : Char} (h : isGap c = true) : isBare c = false := by
  unfold isGap at h
  rw [Bool.or_eq_true, beq_iff_eq, beq_iff_eq] at h
  rcases h with rfl | rfl
  · decide
  · decide

/-- **A bare name is read**, with the gap behind it, if what follows is neither part of a name nor
    joins one. -/
theorem readName_bare {name : String} (hname : IsBareName name) {gap r : List Char} {c : Char}
    (hgap : ∀ d ∈ gap, isGap d = true) (hc : (isGap c || isBare c || c == '.') = false) :
    readName (name.toList ++ (gap ++ c :: r)) = .ok ([name], c :: r) := by
  obtain ⟨hne, hbare⟩ := hname
  rw [Bool.or_eq_false_iff, Bool.or_eq_false_iff, beq_eq_false_iff_ne] at hc
  obtain ⟨⟨hcGap, hcBare⟩, hcPoint⟩ := hc
  have hstop : (gap ++ c :: r).takeWhile isBare = [] ∧
      (gap ++ c :: r).dropWhile isBare = gap ++ c :: r := by
    cases gap with
    | nil =>
      exact ⟨List.takeWhile_cons_of_neg (by simp [hcBare]),
        List.dropWhile_cons_of_neg (by simp [hcBare])⟩
    | cons d l =>
      have hd := not_isBare_of_isGap (hgap d List.mem_cons_self)
      exact ⟨List.takeWhile_cons_of_neg (by simp [hd]), List.dropWhile_cons_of_neg (by simp [hd])⟩
  have hpart : readPart (name.toList ++ (gap ++ c :: r)) = .ok (name, gap ++ c :: r) := by
    have htake : (name.toList ++ (gap ++ c :: r)).takeWhile isBare = name.toList := by
      rw [List.takeWhile_append_of_pos hbare, hstop.1, List.append_nil]
    have hdrop : (name.toList ++ (gap ++ c :: r)).dropWhile isBare = gap ++ c :: r := by
      rw [List.dropWhile_append_of_pos hbare, hstop.2]
    obtain ⟨d, l, hd⟩ := List.exists_cons_of_ne_nil hne
    have hdBare : isBare d = true := hbare d (hd ▸ List.mem_cons_self)
    rw [hd, List.cons_append] at htake hdrop
    rw [hd, List.cons_append]
    unfold readPart
    simp only
    rw [if_pos hdBare, htake, hdrop, ← hd, String.ofList_toList]
  have hskip : skipGap (gap ++ c :: r) = c :: r := by
    unfold skipGap
    rw [List.dropWhile_append_of_pos hgap]
    exact List.dropWhile_cons_of_neg (by simp [hcGap])
  have hparts : ∀ n, readParts (n + 1) (gap ++ c :: r) = .ok ([], c :: r) := by
    intro n
    rw [readParts, hskip]
    split
    · next heq => exact absurd (List.cons.inj heq).1 hcPoint
    · rfl
  obtain ⟨n, hn⟩ : ∃ n, (name.toList ++ (gap ++ c :: r)).length = n + 1 :=
    ⟨(name.toList ++ gap ++ r).length, by simp; omega⟩
  unfold readName
  rw [hpart, hn]
  show (readParts (n + 1) (gap ++ c :: r) >>= _) = _
  rw [hparts]
  rfl

/-- What an entry holds is read from behind the equals sign on, up to the end of the line. -/
theorem readValue_chars (v : Scalar) (fuel : Nat) (r : List Char) :
    readValue (fuel + 1) (v.chars ++ '\n' :: r) = .ok (v.value, '\n' :: r) := by
  cases v with
  | text s =>
    have hend : ∀ c ∈ ('\n' :: r).head?, c ≠ '"' := by
      intro c hc
      cases hc
      decide
    have hread := readText_escaped s.toList hend
    show readValue (fuel + 1) (('"' :: (s.toList.flatMap escapeChar ++ ['"'])) ++ '\n' :: r) = _
    rw [List.cons_append, List.append_assoc, List.singleton_append, readValue, hread]
    show Except.ok (Value.text (String.ofList s.toList), _) = _
    rw [String.ofList_toList]
    rfl
  | truth b =>
    cases b with
    | true => rfl
    | false => rfl

/-- **An entry that was printed is read back**, up to the end of its line. -/
theorem readEntry_printed {e : String × Scalar} (hname : IsBareName e.1) (fuel : Nat)
    (r : List Char) :
    readEntry (fuel + 2) (entryChars e ++ r) = .ok (([e.1], e.2.value), '\n' :: r) := by
  have htext : entryChars e ++ r =
      e.1.toList ++ ([' '] ++ '=' :: ' ' :: (e.2.chars ++ '\n' :: r)) := by
    unfold entryChars
    simp
  have hread : readName (entryChars e ++ r) =
      .ok ([e.1], '=' :: ' ' :: (e.2.chars ++ '\n' :: r)) := by
    rw [htext]
    exact readName_bare hname (List.forall_mem_singleton.mpr rfl) (by decide)
  have hskip : skipGap (' ' :: (e.2.chars ++ '\n' :: r)) = e.2.chars ++ '\n' :: r := by
    cases e.2 with
    | text s => rfl
    | truth b => cases b <;> rfl
  rw [readEntry, hread]
  show (readValue (fuel + 1) (skipGap (' ' :: (e.2.chars ++ '\n' :: r))) >>= fun read =>
    Except.ok (([e.1], read.1), read.2)) = _
  rw [hskip, readValue_chars]
  rfl

/-! ## 3. A document in the making -/

/-- A table gets an entry under a new name at its end. -/
theorem put_of_not_mem {t : Table} {name : String} (h : name ∉ t.map Prod.fst) (v : Value) :
    t.put name v = t ++ [(name, v)] := by
  induction t with
  | nil => rfl
  | cons e rest ih =>
    rw [List.map_cons, List.mem_cons, not_or] at h
    obtain ⟨hne, hrest⟩ := h
    rw [Table.put, if_neg (Ne.symm hne), ih hrest]
    rfl

theorem find?_of_not_mem {t : Table} {name : String} (h : name ∉ t.map Prod.fst) :
    t.find? name = none := by
  unfold Table.find?
  rw [List.lookup_eq_none_iff]
  intro e he
  rw [bne_iff_ne]
  exact fun heq => h (heq ▸ List.mem_map_of_mem he)

theorem find?_last {t : Table} {name : String} (h : name ∉ t.map Prod.fst) (v : Value) :
    Table.find? (t ++ [(name, v)]) name = some v := by
  rw [← put_of_not_mem h, Table.find?_put]

/-- The last entry of a table can be put again. -/
theorem put_last {t : Table} {name : String} (h : name ∉ t.map Prod.fst) (v w : Value) :
    Table.put (t ++ [(name, v)]) name w = t ++ [(name, w)] := by
  induction t with
  | nil => exact if_pos rfl
  | cons e rest ih =>
    rw [List.map_cons, List.mem_cons, not_or] at h
    obtain ⟨hne, hrest⟩ := h
    rw [List.cons_append, Table.put, if_neg (Ne.symm hne), ih hrest]
    rfl

/-- A document in the making holds these tables, and nothing else was said about any. -/
structure Draft.Holds (d : Draft) (t : Table) : Prop where
  table : d.table = t
  declared : d.declared = t.map fun e => [e.1]
  pending : d.pending = []
  closed : d.closed = []

/-- A document in the making behind some tables, with another one open. -/
def draftOf (done : Table) (name : String) (entries : Table) : Draft where
  table := done ++ [(name, .table entries)]
  header := [name]
  declared := (done.map fun e => [e.1]) ++ [[name]]

theorem holds_draftOf (done : Table) (name : String) (entries : Table) :
    (draftOf done name entries).Holds (done ++ [(name, .table entries)]) where
  table := rfl
  declared := by
    rw [List.map_append]
    rfl
  pending := rfl
  closed := rfl

/-- **A header with a new name opens an empty table** behind the others. -/
theorem openTable_new {d : Draft} {done : Table} (hd : d.Holds done) {name : String}
    (hname : name ∉ done.map Prod.fst) :
    d.settle.openTable [name] = .ok (draftOf done name []) := by
  have hnew : (d.settle.declared.contains [name] || covers d.settle.closed [name]) = false := by
    have hclosed : d.settle.closed = [] := hd.closed
    have hdeclared : d.settle.declared = done.map fun e => [e.1] := by
      unfold Draft.settle
      rw [hd.declared, hd.pending, List.append_nil]
    rw [hclosed, hdeclared, covers, List.any_nil, Bool.or_false, Bool.eq_false_iff]
    intro h
    obtain ⟨e, he, heq⟩ := List.mem_map.mp (List.contains_iff_mem.mp h)
    obtain rfl : e.1 = name := (List.cons.inj heq).1
    exact hname (List.mem_map_of_mem he)
  have hchange : Table.change true .ok d.table [name] = .ok (done ++ [(name, .table [])]) := by
    rw [hd.table, Table.change, find?_of_not_mem hname]
    show Except.ok (done.put name (.table [])) = _
    rw [put_of_not_mem hname]
  unfold Draft.openTable
  rw [hnew]
  show (d.table.change true .ok [name] >>= fun table => Except.ok _) = _
  rw [hchange]
  unfold Draft.settle draftOf
  rw [hd.declared, hd.pending, hd.closed, List.append_nil]
  rfl

/-- **An entry with a new name is added** to the table that is open. -/
theorem assign_open {done entries : Table} {name : String} (hname : name ∉ done.map Prod.fst)
    {e : String × Value} (he : e.1 ∉ entries.map Prod.fst) (hopen : e.2.isClosed = false) :
    (draftOf done name entries).assign [e.1] e.2 = .ok (draftOf done name (entries ++ [e])) := by
  have hput : Table.putNew .overwritten e.1 e.2 entries = .ok (entries ++ [e]) := by
    unfold Table.putNew
    rw [find?_of_not_mem he]
    show Except.ok (entries.put e.1 e.2) = _
    rw [put_of_not_mem he]
  have hchange : Table.change true (Table.putNew .overwritten e.1 e.2)
      (done ++ [(name, .table entries)]) [name] =
      .ok (done ++ [(name, .table (entries ++ [e]))]) := by
    rw [Table.change, find?_last hname]
    show ((Table.putNew .overwritten e.1 e.2 entries).map _) = _
    rw [hput]
    show Except.ok (Table.put _ name _) = _
    rw [put_last hname]
  unfold Draft.assign
  show (Table.change true (Table.putNew .overwritten e.1 e.2) (done ++ [(name, .table entries)])
    [name] >>= fun table => Except.ok _) = _
  rw [hchange]
  unfold draftOf
  simp only [hopen]
  rfl

/-! ## 4. Lines -/

/-- One line after another is read. -/
theorem readStatements_line {d d' : Draft} {s r : List Char} (n : Nat) (hskip : skipGap s = s)
    (hread : readStatement d s = .ok (d', '\n' :: r)) :
    readStatements (n + 1) d s = readStatements n d' r := by
  rw [readStatements, hskip, hread]
  rfl

theorem exists_bare {name : String} (hname : IsBareName name) :
    ∃ c l, name.toList = c :: l ∧ isBare c = true := by
  obtain ⟨c, l, hc⟩ := List.exists_cons_of_ne_nil hname.1
  exact ⟨c, l, hc, hname.2 c (hc ▸ List.mem_cons_self)⟩

theorem isGap_of_isBare {c : Char} (h : isBare c = true) : isGap c = false := by
  rw [Bool.eq_false_iff]
  intro hgap
  rw [not_isBare_of_isGap hgap] at h
  cases h

/-- The line of an entry adds the entry. -/
theorem readStatements_entry {done entries : Table} {name : String}
    (hname : name ∉ done.map Prod.fst) {e : String × Scalar} (hbare : IsBareName e.1)
    (he : e.1 ∉ entries.map Prod.fst) (n : Nat) (r : List Char) :
    readStatements (n + 1) (draftOf done name entries) (entryChars e ++ r) =
      readStatements n (draftOf done name (entries ++ [(e.1, e.2.value)])) r := by
  obtain ⟨c, l, hc, hcBare⟩ := exists_bare hbare
  obtain ⟨t, ht⟩ : ∃ t, entryChars e ++ r = c :: t := by
    unfold entryChars
    rw [hc]
    exact ⟨_, rfl⟩
  have hskip : skipGap (entryChars e ++ r) = entryChars e ++ r := by
    rw [ht]
    exact List.dropWhile_cons_of_neg (by simp [isGap_of_isBare hcBare])
  have hopen : e.2.value.isClosed = false := by
    cases e.2 <;> rfl
  have hassign := assign_open hname (e := (e.1, e.2.value)) he hopen
  have hread : ∀ fuel, readEntry (fuel + 2) (c :: t) = .ok (([e.1], e.2.value), '\n' :: r) :=
    fun fuel => ht ▸ readEntry_printed hbare fuel r
  refine readStatements_line n hskip ?_
  rw [ht]
  unfold readStatement
  have hstarts : startsName c = true := by
    unfold startsName
    rw [hcBare]
    rfl
  simp only
  rw [if_pos hstarts, hread]
  show (orStop _ ((draftOf done name entries).assign [e.1] e.2.value) >>= _) = _
  rw [hassign]
  rfl

/-- **The entries of a section are read**, by induction on the lines that are left. -/
theorem readStatements_entries {done : Table} {name : String} (hname : name ∉ done.map Prod.fst)
    (rest : List (String × Scalar)) : ∀ entries : Table, (∀ e ∈ rest, IsBareName e.1) →
    (entries.map Prod.fst ++ rest.map Prod.fst).Nodup → ∀ n r,
    readStatements (rest.length + n) (draftOf done name entries) (rest.flatMap entryChars ++ r) =
      readStatements n (draftOf done name
        (entries ++ rest.map fun e => (e.1, e.2.value))) r := by
  induction rest with
  | nil =>
    intro entries _ _ n r
    rw [List.length_nil, Nat.zero_add, List.map_nil, List.append_nil]
    rfl
  | cons e rest ih =>
    intro entries hbare hnodup n r
    obtain ⟨he, hrest⟩ := List.forall_mem_cons.mp hbare
    have hnew : e.1 ∉ entries.map Prod.fst := by
      intro hmem
      exact List.disjoint_of_nodup_append hnodup hmem List.mem_cons_self
    have hnodup' : ((entries ++ [(e.1, e.2.value)]).map Prod.fst ++ rest.map Prod.fst).Nodup := by
      rw [List.map_append, List.append_assoc]
      exact hnodup
    rw [List.length_cons, Nat.add_right_comm, List.flatMap_cons, List.append_assoc,
      readStatements_entry hname he hnew, ih _ hrest hnodup', List.append_assoc]
    rfl

/-- The header of a section opens it. -/
theorem readStatements_header {d : Draft} {done : Table} (hd : d.Holds done) {name : String}
    (hbare : IsBareName name) (hname : name ∉ done.map Prod.fst) (n : Nat) (r : List Char) :
    readStatements (n + 1) d ('[' :: (name.toList ++ ']' :: '\n' :: r)) =
      readStatements n (draftOf done name []) r := by
  obtain ⟨c, l, hc, hcBare⟩ := exists_bare hbare
  have hread : readName (name.toList ++ ']' :: '\n' :: r) = .ok ([name], ']' :: '\n' :: r) := by
    rw [← List.nil_append (']' :: '\n' :: r)]
    exact readName_bare hbare nofun (by decide)
  have hskip : skipGap (name.toList ++ ']' :: '\n' :: r) = name.toList ++ ']' :: '\n' :: r := by
    rw [hc]
    exact List.dropWhile_cons_of_neg (by simp [isGap_of_isBare hcBare])
  have hheader : readHeader d ('[' :: (name.toList ++ ']' :: '\n' :: r)) =
      .ok (draftOf done name [], '\n' :: r) := by
    unfold readHeader
    split
    · next heq =>
      rw [hc] at heq
      have hmark : c = '[' := (List.cons.inj (List.cons.inj heq).2).1
      rw [hmark] at hcBare
      exact absurd hcBare (by decide)
    · rw [List.drop_one, List.tail_cons, hskip, hread]
      show (orStop _ (d.settle.openTable [name]) >>= _) = _
      rw [openTable_new hd hname]
      rfl
  exact readStatements_line n rfl hheader

/-- A section that is printed as it will be read. -/
structure Section.Printable (s : Section) : Prop where
  name : IsBareName s.name
  entries : ∀ e ∈ s.entries, IsBareName e.1
  nodup : (s.entries.map Prod.fst).Nodup

/-- Which names there are says whether a section is printable. -/
theorem printable_of_names (name : String) (names : List String)
    (h : IsBareName name ∧ (∀ n ∈ names, IsBareName n) ∧ names.Nodup)
    {entries : List (String × Scalar)} (hentries : entries.map Prod.fst = names) :
    Section.Printable ⟨name, entries⟩ := by
  subst hentries
  exact ⟨h.1, List.forall_mem_map.mp h.2.1, h.2.2⟩

theorem readStatements_section {d : Draft} {done : Table} (hd : d.Holds done) {s : Section}
    (hs : s.Printable) (hname : s.name ∉ done.map Prod.fst) (n : Nat) (r : List Char) :
    readStatements (s.entries.length + n + 1) d (s.chars ++ r) =
      readStatements n (draftOf done s.name s.table) r := by
  have htext : s.chars ++ r =
      '[' :: (s.name.toList ++ ']' :: '\n' :: (s.entries.flatMap entryChars ++ r)) := by
    unfold Section.chars
    simp
  have hentries := readStatements_entries hname s.entries [] hs.entries hs.nodup n r
  rw [htext, readStatements_header hd hs.name hname, hentries]
  rfl

/-- Sections as they are read. -/
def tableOf (sections : List Section) : Table := sections.map fun s => (s.name, .table s.table)

theorem length_le_chars (s : Section) : s.entries.length + 2 ≤ s.chars.length := by
  have hentry : ∀ e : String × Scalar, entryChars e ≠ [] := by
    intro e
    unfold entryChars
    exact List.append_ne_nil_of_right_ne_nil _ (List.cons_ne_nil _ _)
  have hle := Json.length_le_flatMap hentry s.entries
  unfold Section.chars
  rw [List.length_append, List.length_append, List.length_cons]
  show _ ≤ _ + 2 + _
  omega

/-- **Sections are read one after the other**, by induction on those that are left. -/
theorem readStatements_sections (sections : List Section) : ∀ {d : Draft} {done : Table},
    d.Holds done → (∀ s ∈ sections, s.Printable) →
    (done.map Prod.fst ++ sections.map Section.name).Nodup →
    ∃ k d', k ≤ (documentChars sections).length ∧ d'.Holds (done ++ tableOf sections) ∧
      ∀ n, readStatements (k + n) d (documentChars sections) = readStatements n d' [] := by
  induction sections with
  | nil =>
    intro d done hd _ _
    refine ⟨0, d, Nat.le_refl _, ?_, fun n => ?_⟩
    · unfold tableOf
      rwa [List.map_nil, List.append_nil]
    · rw [Nat.zero_add]
      rfl
  | cons s rest ih =>
    intro d done hd hprintable hnodup
    obtain ⟨hs, hrest⟩ := List.forall_mem_cons.mp hprintable
    have hname : s.name ∉ done.map Prod.fst := by
      intro hmem
      exact List.disjoint_of_nodup_append hnodup hmem List.mem_cons_self
    have hlength := length_le_chars s
    have hsection := readStatements_section hd hs hname
    have hnext := holds_draftOf done s.name s.table
    cases rest with
    | nil =>
      refine ⟨s.entries.length + 1, _, ?_, hnext, fun n => ?_⟩
      · show _ ≤ s.chars.length
        omega
      · have h := hsection n []
        rw [List.append_nil] at h
        rw [Nat.add_right_comm]
        exact h
    | cons next more =>
      have hnodup' : ((done ++ [(s.name, Value.table s.table)]).map Prod.fst ++
          (next :: more).map Section.name).Nodup := by
        rw [List.map_append, List.append_assoc]
        exact hnodup
      obtain ⟨k, d', hk, hd', hread⟩ := ih hnext hrest hnodup'
      refine ⟨s.entries.length + 1 + (k + 1), d', ?_, ?_, fun n => ?_⟩
      · show _ ≤ (s.chars ++ '\n' :: documentChars (next :: more)).length
        rw [List.length_append, List.length_cons]
        omega
      · rw [List.append_assoc] at hd'
        exact hd'
      · show readStatements _ d (s.chars ++ '\n' :: documentChars (next :: more)) = _
        rw [show s.entries.length + 1 + (k + 1) + n = s.entries.length + (k + n + 1) + 1 by omega,
          hsection, ← hread]
        exact readStatements_line (k + n) rfl rfl

/-! ## 5. Documents -/

theorem plainLines_eq_self {s : List Char} (h : '\r' ∉ s) : plainLines s = s := by
  induction s with
  | nil => rfl
  | cons c r ih =>
    rw [List.mem_cons, not_or] at h
    obtain ⟨hc, hr⟩ := h
    unfold plainLines
    split
    · next heq => cases heq
    · next heq => exact absurd (List.cons.inj heq).1.symm hc
    · next heq =>
      cases heq
      rw [ih hr]

theorem return_notMem_escapeChar (c : Char) : '\r' ∉ escapeChar c := by
  unfold escapeChar
  split
  case h_8 hreturn _ _ _ =>
    split
    · next hc =>
      have hlt : c.toNat < 128 := by
        simp only [Bool.or_eq_true, decide_eq_true_eq, beq_iff_eq] at hc
        omega
      obtain ⟨x₁, x₂, x₃, x₄, hdigits, hhex, -⟩ := Json.hexPadded_ascii c.toNat hlt
      rw [hdigits]
      intro hmem
      rcases List.mem_cons.mp hmem with h | hmem
      · cases h
      · rcases List.mem_cons.mp hmem with h | hmem
        · cases h
        · exact absurd (List.all_eq_true.mp hhex _ hmem) (by decide)
    · exact fun hmem => hreturn (List.mem_singleton.mp hmem).symm
  all_goals decide

/-- A document that was printed has no carriage return. -/
theorem return_notMem_documentChars (sections : List Section)
    (h : ∀ s ∈ sections, s.Printable) : '\r' ∉ documentChars sections := by
  have hname : ∀ {name : String}, IsBareName name → '\r' ∉ name.toList := by
    intro name hname hmem
    exact absurd (hname.2 '\r' hmem) (by decide)
  have hvalue : ∀ v : Scalar, '\r' ∉ v.chars := by
    intro v
    cases v with
    | text s =>
      have hbody : '\r' ∉ s.toList.flatMap escapeChar := by
        intro hmem
        obtain ⟨c, -, hc⟩ := List.mem_flatMap.mp hmem
        exact return_notMem_escapeChar c hc
      show '\r' ∉ '"' :: (s.toList.flatMap escapeChar ++ ['"'])
      simp [hbody]
    | truth b => cases b <;> decide
  have hsection : ∀ s : Section, s.Printable → '\r' ∉ s.chars := by
    intro s hs
    have hentries : '\r' ∉ s.entries.flatMap entryChars := by
      intro hmem
      obtain ⟨e, he, hmem⟩ := List.mem_flatMap.mp hmem
      unfold entryChars at hmem
      simp [hname (hs.entries e he), hvalue e.2] at hmem
    unfold Section.chars
    simp [hname hs.name, hentries]
  induction sections with
  | nil => exact List.not_mem_nil
  | cons s rest ih =>
    obtain ⟨hs, hrest⟩ := List.forall_mem_cons.mp h
    cases rest with
    | nil => exact hsection s hs
    | cons next more =>
      show '\r' ∉ s.chars ++ '\n' :: documentChars (next :: more)
      simp [hsection s hs, ih hrest]

/-- **A document that was printed is read as a table of its sections**, if names are bare and none
    occurs twice. -/
theorem read_print {sections : List Section} (h : ∀ s ∈ sections, s.Printable)
    (hnodup : (sections.map Section.name).Nodup) :
    read (print sections) = .ok (tableOf sections) := by
  have hplain := plainLines_eq_self (return_notMem_documentChars sections h)
  have hstart : Draft.Holds {} [] := ⟨rfl, rfl, rfl, rfl⟩
  obtain ⟨k, d, hk, hd, hread⟩ := readStatements_sections sections hstart h hnodup
  obtain ⟨n, hn⟩ : ∃ n, (documentChars sections).length + 1 = k + (n + 1) :=
    ⟨(documentChars sections).length - k, by omega⟩
  unfold read print readChars
  rw [String.toList_ofList, hplain, hn, hread]
  exact congrArg Except.ok hd.table

end MapQuery.Toml
