import MapQuery.Proofs.Files.Path
import MapQuery.Proofs.Files.Tree
import MapQuery.Proofs.Text.Utf8
import MapQuery.Proofs.Toml.Printed
import MapQuery.Settings.File

/-!
# Saved settings read back

Settings that are saved, with some of them set again, are found in the file when it is read, those
that were set again with their new values, and all others as they were. There is one exception: a
default map whose path is not clean cannot be written. Then saving fails, and what it leaves is a
file of the other settings.

* `printable_sections` -- the document that is saved can be read;
* `ofTable_tableOf` -- the settings in its table;
* `ofBytes_toBytes` -- the settings in its bytes;
* `save_of_write`, `of_save` -- how saving ends, and where it ends well;
* `saved_reads_back` -- the settings that are saved, and those that are read.
-/

namespace MapQuery.Settings

/-! ## 1. The document -/

/-- The settings that can be written. -/
def writable (s : Settings) : Settings :=
  { s with defaultFile := s.defaultFile.filter fun p => p.text.Clean }

theorem writable_of_clean {s : Settings} (h : ∀ p ∈ s.defaultFile, p.text.Clean) :
    s.writable = s := by
  unfold writable
  cases hs : s.defaultFile with
  | none => rw [Option.filter_none, ← hs]
  | some p => rw [Option.filter_some, if_pos (decide_eq_true (h p hs)), ← hs]

theorem writable_of_torn {s : Settings} {p : Path} (hp : s.defaultFile = some p)
    (h : ¬ p.text.Clean) : s.writable = { s with defaultFile := none } := by
  unfold writable
  rw [hp, Option.filter_some, if_neg (by simpa using h)]

/-- The names of sections and entries are bare, and none occurs twice. -/
theorem printable_sections (s : Settings) :
    (∀ x ∈ s.sections, x.Printable) ∧ (s.sections.map Toml.Section.name).Nodup := by
  have hsearch : Toml.Section.Printable ⟨"search", [("case_sensitive", .truth s.caseSensitive),
      ("regex", .truth s.regex)]⟩ :=
    Toml.printable_of_names "search" ["case_sensitive", "regex"] (by decide) rfl
  have hdisplay : Toml.Section.Printable ⟨"display", [("colored_output", .truth s.colored)]⟩ :=
    Toml.printable_of_names "display" ["colored_output"] (by decide) rfl
  have hdata : ∀ text : Option String, Toml.Section.Printable ⟨"data",
      (text.map fun t => ("default_file", .text t)).toList⟩ := by
    intro text
    cases text with
    | none => exact Toml.printable_of_names "data" [] (by decide) rfl
    | some t => exact Toml.printable_of_names "data" ["default_file"] (by decide) rfl
  unfold sections
  cases s.defaultFile with
  | none => simp [hsearch, hdisplay]
  | some p => simp [hsearch, hdisplay, hdata]

/-- **The settings in the table of a document are those that it was made for**, as far as they can
    be written. -/
theorem ofTable_tableOf (file : Path) {s : Settings} (hs : ∀ p ∈ s.defaultFile, p.Proper) :
    ofTable file (Toml.tableOf s.sections) = .ok { s.writable with source := some file } := by
  obtain ⟨caseSensitive, regex, defaultFile, colored, source⟩ := s
  cases defaultFile with
  | none => rfl
  | some p =>
    have hpath : Path.ofText p.text = p := Path.ofText_text (hs p rfl)
    have hread : ∀ text, p.text.clean? = text →
        ofTable file (Toml.tableOf (sections ⟨caseSensitive, regex, some p, colored, source⟩)) =
          .ok ⟨caseSensitive, regex, text.map fun (t : String) => Path.ofText t, colored,
            some file⟩ := by
      intro text htext
      unfold sections
      dsimp only
      rw [htext]
      cases text with
      | none => rfl
      | some t => rfl
    by_cases hclean : p.text.Clean
    · obtain ⟨t, ht⟩ := Rough.clean_iff.mp hclean
      rw [writable_of_clean (by rintro _ ⟨⟩; exact hclean), hread (some t) (by rw [ht]; rfl),
        Option.map_some, ← ht, hpath]
    · rw [writable_of_torn rfl hclean, hread none (if_neg hclean)]
      rfl

/-- **Settings are read from the bytes that are saved of them**, as far as they can be written, if
    the default map is one that a text can name. -/
theorem ofBytes_toBytes (file : Path) {s : Settings} (hs : ∀ p ∈ s.defaultFile, p.Proper) :
    ofBytes file s.toBytes = .ok { s.writable with source := some file } := by
  obtain ⟨hprintable, hnodup⟩ := printable_sections s
  have htext : Text.Utf8.decode s.toBytes = .ok s.print := Text.Utf8.decode_toUTF8 s.print
  have htable : Toml.read s.print = .ok (Toml.tableOf s.sections) :=
    Toml.read_print hprintable hnodup
  exact bind_eq_ok.mpr ⟨_, mapError_eq_ok.mpr htext, bind_eq_ok.mpr ⟨_, mapError_eq_ok.mpr htable,
    mapError_eq_ok.mpr (ofTable_tableOf file hs)⟩⟩

/-! ## 2. Saving -/

/-- The line of a default map can be written just if its path is clean. -/
theorem printFault?_eq_none_iff {s : Settings} :
    s.printFault? = none ↔ ∀ p ∈ s.defaultFile, p.text.Clean := by
  unfold printFault?
  cases s.defaultFile with
  | none => simp
  | some p =>
    rw [Option.bind_some, Rough.fault?_eq_none_iff, Rough.halves_append, Rough.halves_append,
      Rough.halves_mapRuns]
    simp [Rough.clean_iff_halves, List.eq_nil_iff_forall_not_mem]

section Save

variable {w : Path.Place} {s : Settings} {named : Option Path} {file : Path} {t t' : Tree}

/-- **Saving ends in the file that is written**, with the fault of its text if it has one. -/
theorem save_of_write (hfile : ((named.or s.source).getD (standardPath w)).resolve w = .ok file)
    (hwrite : t.write file s.toBytes = .ok t') :
    (save w s named : StateM Tree (Except SaveFault Unit)) t =
      ((s.printFault?.map SaveFault.encoding).elim (.ok ()) .error, t') := by
  unfold save
  rw [hfile]
  refine (Tree.write_bind t file s.toBytes _).trans ?_
  rw [hwrite]
  cases s.printFault? with
  | none => rfl
  | some e => rfl

/-- **Saving ends well only where the file is written**, and nothing in its text is at fault. -/
theorem of_save (h : (save w s named : StateM Tree (Except SaveFault Unit)) t = (.ok (), t')) :
    s.printFault? = none ∧ ∃ file,
      ((named.or s.source).getD (standardPath w)).resolve w = .ok file ∧
        t.write file s.toBytes = .ok t' := by
  cases hfile : ((named.or s.source).getD (standardPath w)).resolve w with
  | error e =>
    unfold save at h
    rw [hfile] at h
    cases h
  | ok file =>
    cases hwrite : t.write file s.toBytes with
    | error e =>
      unfold save at h
      rw [hfile] at h
      have hends := (Tree.write_bind t file s.toBytes _).symm.trans h
      rw [hwrite] at hends
      cases hends
    | ok written =>
      have hends := (save_of_write hfile hwrite).symm.trans h
      cases hfault : s.printFault? with
      | none =>
        rw [hfault] at hends
        cases hends
        exact ⟨rfl, file, rfl, hwrite⟩
      | some e =>
        rw [hfault] at hends
        cases hends

/-- **What is written is found where the settings say.** -/
theorem look_of_save (hw : (".." : Rough) ∉ w.folder.names)
    (hfile : ((named.or s.source).getD (standardPath w)).resolve w = .ok file)
    (hwrite : t.write file s.toBytes = .ok t') : t'.look file = .file s.toBytes := by
  obtain ⟨hstart, hdots⟩ := Path.dots_notMem_resolve hw hfile
  exact Tree.look_of_write (by rw [hstart]; decide) hdots hwrite

end Save

/-- **Settings that are saved read back, and what is set again touches nothing else**, if they can
    be saved. The default map may be any that a text can name, whatever characters it has. If its
    path is clean, saving settings of which some were set again ends well wherever a file can be
    written, and leaves a file with their bytes; and these bytes are read, in a file at any path, as
    settings with the new values where there are some, and the old ones where not. If the path is
    not clean, saving never ends well: where the file can be written the fault is one of encoding,
    and the file is left with bytes that are read as the settings without a default map. -/
theorem saved_reads_back (s : Settings) (o : Overrides) (hs : ∀ p ∈ s.defaultFile, p.Proper)
    (ho : ∀ p ∈ o.defaultFile, p.Proper) :
    let places (w : Path.Place) (named : Option Path) (file : Path) :=
      ((named.or s.source).getD (standardPath w)).resolve w = .ok file
    let saved (w : Path.Place) (named : Option Path) :=
      (save w (o.apply s) named : StateM Tree (Except SaveFault Unit))
    ((∀ p ∈ (o.apply s).defaultFile, p.text.Clean) →
      (∀ file, ofBytes file (o.apply s).toBytes = .ok {
        caseSensitive := o.caseSensitive.getD s.caseSensitive
        regex := o.regex.getD s.regex
        defaultFile := o.defaultFile.or s.defaultFile
        colored := o.colored.getD s.colored
        source := some file }) ∧
      (∀ (w : Path.Place) (named : Option Path) (t t' : Tree), (".." : Rough) ∉ w.folder.names →
        saved w named t = (.ok (), t') →
        ∃ file, places w named file ∧ t'.look file = .file (o.apply s).toBytes) ∧
      ∀ (w : Path.Place) (named : Option Path) (file : Path) (t t' : Tree), places w named file →
        t.write file (o.apply s).toBytes = .ok t' → saved w named t = (.ok (), t')) ∧
    ((∃ p ∈ (o.apply s).defaultFile, ¬ p.text.Clean) →
      (∀ file, ofBytes file (o.apply s).toBytes = .ok {
        caseSensitive := o.caseSensitive.getD s.caseSensitive
        regex := o.regex.getD s.regex
        defaultFile := none
        colored := o.colored.getD s.colored
        source := some file }) ∧
      (∀ (w : Path.Place) (named : Option Path) (t : Tree), (saved w named t).1 ≠ .ok ()) ∧
      ∃ e : Rough.Fault, ∀ (w : Path.Place) (named : Option Path) (file : Path) (t t' : Tree),
        (".." : Rough) ∉ w.folder.names → places w named file →
        t.write file (o.apply s).toBytes = .ok t' →
        saved w named t = (.error (.encoding e), t') ∧
          t'.look file = .file (o.apply s).toBytes) := by
  intro places saved
  have hproper : ∀ p ∈ (o.apply s).defaultFile, p.Proper := by
    intro p hp
    rcases Option.or_eq_some_iff.mp hp with hnew | ⟨-, hold⟩
    · exact ho p hnew
    · exact hs p hold
  refine ⟨fun hclean => ?_, fun htorn => ?_⟩
  · have hnone := printFault?_eq_none_iff.mpr hclean
    refine ⟨fun file => ?_, fun w named t t' hw hsave => ?_, fun w named file t t' hfile hwrite => ?_⟩
    · rw [ofBytes_toBytes file hproper, writable_of_clean hclean]
      rfl
    · obtain ⟨-, file, hfile, hwrite⟩ := of_save hsave
      exact ⟨file, hfile, look_of_save (s := o.apply s) hw hfile hwrite⟩
    · refine (save_of_write (s := o.apply s) hfile hwrite).trans ?_
      rw [hnone]
      rfl
  · obtain ⟨p, hp, hne⟩ := htorn
    obtain ⟨e, he⟩ : ∃ e, (o.apply s).printFault? = some e := by
      rw [← Option.ne_none_iff_exists', Ne, printFault?_eq_none_iff]
      exact fun hclean => hne (hclean p hp)
    refine ⟨fun file => ?_, fun w named t hok => ?_, e, fun w named file t t' hw hfile hwrite =>
      ⟨?_, look_of_save hw hfile hwrite⟩⟩
    · rw [ofBytes_toBytes file hproper, writable_of_torn hp hne]
      rfl
    · obtain ⟨hnone, -⟩ := of_save (Prod.ext hok rfl : saved w named t = (.ok (), _))
      rw [he] at hnone
      cases hnone
    · refine (save_of_write (s := o.apply s) hfile hwrite).trans ?_
      rw [he]
      rfl

/-- A map with a quotation mark, a backslash, control characters and a letter beyond ASCII in its
    path, for settings that had another one; and one whose name starts with a byte that is no
    UTF-8. -/
theorem saved_reads_back_escaped :
    let s : Settings := { defaultFile := some (Path.ofText "map.json"), colored := false }
    let w : Path.Place := { folder := ⟨.root, ["work"]⟩, home := ⟨.root, ["home"]⟩ }
    let file : Path := ⟨.root, ["home", ".config", "osm-search", "config.toml"]⟩
    let saving (map : Path) : Settings :=
      ({ regex := some true, defaultFile := some map } : Overrides).apply s
    let saved (map : Path) := (save w (saving map) none : StateM Tree (Except SaveFault Unit)) {}
    let escaped := Path.ofText "~/a\"b\\\x01\x7f/\r\n\té"
    let torn := Path.ofText ⟨"", [(0x4FF, ".json")]⟩
    (∃ t', saved escaped = (.ok (), t') ∧ t'.look file = .file (saving escaped).toBytes ∧
      ofBytes file (saving escaped).toBytes = .ok ⟨false, true, some escaped, false, some file⟩) ∧
    ∃ e t', saved torn = (.error (.encoding e), t') ∧
      t'.look file = .file (saving torn).toBytes ∧
      ofBytes file (saving torn).toBytes = .ok ⟨false, true, none, false, some file⟩ := by
  intro s w file saving saved escaped torn
  have hproper : ∀ text : Rough, ∀ p ∈ some (Path.ofText text), p.Proper := by
    intro text p hp
    cases hp
    exact Path.proper_ofText text
  have hfile : (standardPath w).resolve w = .ok file := by
    have hexpand : Path.expandHome w (standardPath w) = .ok (standardPath w) := rfl
    have hplace : Path.absolute w (standardPath w) = file := by decide
    rw [Path.resolve_of_nameFault? hexpand (by decide), hplace]
  have hwrites : ∀ bytes, ∃ t', ({} : Tree).write file bytes = .ok t' := fun _ => ⟨_, rfl⟩
  refine ⟨?_, ?_⟩
  · obtain ⟨hclean, -⟩ := saved_reads_back s { regex := some true, defaultFile := some escaped }
      (hproper _) (hproper _)
    obtain ⟨hread, hlook, hsave⟩ := hclean fun p hp => by
      cases hp
      exact Path.clean_text_ofText _
    obtain ⟨t', hwrite⟩ := hwrites (saving escaped).toBytes
    have hsaved := hsave w none file {} t' hfile hwrite
    obtain ⟨there, hthere, hfound⟩ := hlook w none {} t' (by decide) hsaved
    cases hfile.symm.trans hthere
    exact ⟨t', hsaved, hfound, hread file⟩
  · obtain ⟨-, htorn⟩ := saved_reads_back s { regex := some true, defaultFile := some torn }
      (hproper _) (hproper _)
    obtain ⟨hread, -, e, hsave⟩ := htorn ⟨torn, rfl, by decide⟩
    obtain ⟨t', hwrite⟩ := hwrites (saving torn).toBytes
    obtain ⟨hsaved, hfound⟩ := hsave w none file {} t' (by decide) hfile hwrite
    exact ⟨e, t', hsaved, hfound, hread file⟩

end MapQuery.Settings
