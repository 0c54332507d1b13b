import MapQuery.Proofs.Settings.Saved
import MapQuery.Proofs.Toml.Overlong

/-!
# Files of settings that are refused

A file of settings is refused as a document if it is no TOML, or if a value in it does not fit.
There are other reasons, none of which counts as one of these: the bytes are no text, the text has
an integer that is too long, or the default map leads nowhere.

* `Undocumented` -- the other reasons;
* `load_eq` -- what is loaded from a file that is there;
* `settings_faults` -- a fault that is none of the document is one of the other reasons, and each of
  them keeps a file from being loaded.
-/

namespace MapQuery.Settings

open Text

/-! ## 1. The reasons -/

/-- **Why a file of settings is refused other than as a document.** -/
inductive Undocumented (w : Path.Place) (file : Path) (bytes : List UInt8) : FileFault → Prop
  | bytes {e : Utf8.Fault} : ¬ bytes.toByteArray.IsValidUTF8 →
      Undocumented w file bytes (.notText e)
  | digits {text : String} {n : Nat} : bytes.toByteArray = text.toUTF8 →
      Toml.Overlong (Toml.plainLines text.toList) n →
      Undocumented w file bytes (.badSyntax file (.tooLong n))
  | home {s : Settings} {p : Path} : ofBytes file bytes = .ok s → s.defaultFile = some p →
      p.NoHome w → Undocumented w file bytes (.badPath .noHome)
  | null {s : Settings} {p : Path} : ofBytes file bytes = .ok s → s.defaultFile = some p →
      ¬ p.NoHome w → (∃ name ∈ p.names, Path.null ∈ name.points) →
      Undocumented w file bytes (.badPath .nullCharacter)

/-! ## 2. Loading -/

/-- Settings with the default map at its place from the root, or why it has none. -/
def placed (w : Path.Place) (t : Tree) (s : Settings) :
    Except Path.Fault (Settings × List Rough) :=
  match s.defaultFile with
  | none => .ok (s, [])
  | some p => (p.resolve w).map fun place => ({ s with defaultFile := some place },
      if (t.look place).isSomething then [] else [missingMap place])

theorem check_eq (w : Path.Place) (t : Tree) (s : Settings) :
    (check w s : StateM Tree (Except Path.Fault (Settings × List Rough))) t =
      (placed w t s, t) := by
  unfold check placed
  cases s.defaultFile with
  | none => rfl
  | some p =>
    cases hplace : p.resolve w with
    | error e =>
      dsimp only
      rw [hplace]
      rfl
    | ok place =>
      dsimp only
      rw [hplace]
      rfl

theorem placed_eq_error_iff {w : Path.Place} {t : Tree} {s : Settings} {e : Path.Fault} :
    placed w t s = .error e ↔ ∃ p, s.defaultFile = some p ∧ p.resolve w = .error e := by
  unfold placed
  cases s.defaultFile with
  | none => simp
  | some p =>
    dsimp only
    rw [map_eq_error]
    simp

/-- A path in a section is one that a text names. -/
theorem ofText_of_pathIn {table : Toml.Table} {sectionName name : String} {p : Path}
    (h : pathIn table sectionName name = .ok (some p)) : ∃ text : String, p = Path.ofText text := by
  unfold pathIn at h
  split at h
  · cases h
  · next text _ =>
    cases h
    exact ⟨text, rfl⟩
  · cases h

/-- **The default map that is read is one that a text names.** -/
theorem ofText_of_ofBytes {file : Path} {bytes : List UInt8} {s : Settings}
    (h : ofBytes file bytes = .ok s) :
    ∀ p ∈ s.defaultFile, ∃ text : String, p = Path.ofText text := by
  unfold ofBytes at h
  obtain ⟨_, -, h⟩ := bind_eq_ok.mp h
  obtain ⟨table, -, h⟩ := bind_eq_ok.mp h
  have htable : ofTable file table = .ok s := mapError_eq_ok.mp h
  unfold ofTable at htable
  obtain ⟨_, -, hcase⟩ := bind_eq_ok.mp htable
  obtain ⟨_, -, hregex⟩ := bind_eq_ok.mp hcase
  obtain ⟨_, -, hdata⟩ := bind_eq_ok.mp hregex
  obtain ⟨_, -, hmap⟩ := bind_eq_ok.mp hdata
  obtain ⟨defaultFile, hpath, hdisplay⟩ := bind_eq_ok.mp hmap
  obtain ⟨_, -, hcolored⟩ := bind_eq_ok.mp hdisplay
  obtain ⟨_, -, hs⟩ := bind_eq_ok.mp hcolored
  cases hs
  intro p hp
  cases hp
  exact ofText_of_pathIn hpath

theorem bytewise_of_ofBytes {file p : Path} {bytes : List UInt8} {s : Settings}
    (h : ofBytes file bytes = .ok s) (hp : s.defaultFile = some p) :
    ∀ name ∈ p.names, Path.Bytewise name := by
  obtain ⟨text, rfl⟩ := ofText_of_ofBytes h p hp
  exact fun _ => Path.bytewise_of_ofText

section Load

variable {w : Path.Place} {named : Option Path} {file : Path} {t : Tree} {bytes : List UInt8}

/-- **What is loaded from a file that is there** are the settings in its bytes, with the default map
    at its place. -/
theorem load_eq (hfile : (named.getD (standardPath w)).resolve w = .ok file)
    (hthere : t.look file = .file bytes) :
    (load w named : StateM Tree (Except FileFault (Settings × List Rough))) t =
      (ofBytes file bytes >>= fun s => (placed w t s).mapError .badPath, t) := by
  have hlook : ∀ {α : Type} (f : Stored → StateM Tree α),
      ((Storage.look file : StateM Tree Stored) >>= f) t = f (.file bytes) t := by
    intro α f
    show f (t.look file) t = _
    rw [hthere]
  unfold load
  rw [hfile]
  refine (hlook _).trans ?_
  have hbytes : (((Stored.file bytes).bytes file).mapError .unreadable >>= ofBytes file) =
      ofBytes file bytes := rfl
  rw [if_pos (show (Stored.file bytes).isSomething = true from rfl), hbytes]
  cases ofBytes file bytes with
  | error e => rfl
  | ok s =>
    show (((check w s : StateM Tree (Except Path.Fault (Settings × List Rough))) t).1.mapError _,
      ((check w s : StateM Tree (Except Path.Fault (Settings × List Rough))) t).2) = _
    rw [check_eq]
    rfl

/-- What is read of a file, by what its bytes stand for. -/
theorem ofBytes_of_text {text : String} (h : bytes.toByteArray = text.toUTF8) :
    ofBytes file bytes = ((Toml.readChars (Toml.plainLines text.toList)).mapError
      (.badSyntax file) >>= fun table => (ofTable file table).mapError .badValue) := by
  unfold ofBytes
  rw [Utf8.decode_eq_ok_iff.mpr h]
  rfl

theorem ofBytes_of_not_text (file : Path) (h : ¬ bytes.toByteArray.IsValidUTF8) :
    ∃ e, ofBytes file bytes = .error (.notText e) := by
  obtain ⟨e, he⟩ := Utf8.decode_eq_error_iff.mpr h
  refine ⟨e, ?_⟩
  unfold ofBytes
  rw [he]
  rfl

/-- **The bytes of a file are refused other than as a document** if they are no text, or for an
    integer. -/
theorem isDocument_of_ofBytes {e : FileFault} (h : ofBytes file bytes = .error e) :
    e.isDocument = false ↔ (∃ fault, e = .notText fault ∧ ¬ bytes.toByteArray.IsValidUTF8) ∨
      ∃ (text : String) (n : Nat), e = .badSyntax file (.tooLong n) ∧
        bytes.toByteArray = text.toUTF8 ∧ Toml.Overlong (Toml.plainLines text.toList) n := by
  constructor
  · intro hdocument
    by_cases hvalid : bytes.toByteArray.IsValidUTF8
    · have htext : bytes.toByteArray = (String.ofByteArray _ hvalid).toUTF8 := rfl
      rw [ofBytes_of_text htext] at h
      rcases bind_eq_error.mp h with hread | ⟨table, -, htable⟩
      · obtain ⟨fault, hfault, rfl⟩ := mapError_eq_error.mp hread
        cases fault with
        | syntaxAt => cases hdocument
        | tooLong n => exact .inr ⟨_, n, rfl, htext, Toml.overlong_of_readChars hfault⟩
      · obtain ⟨fault, -, rfl⟩ := mapError_eq_error.mp htable
        cases hdocument
    · obtain ⟨fault, hfault⟩ := ofBytes_of_not_text file hvalid
      cases h.symm.trans hfault
      exact .inl ⟨fault, rfl, hvalid⟩
  · intro hreason
    rcases hreason with ⟨_, rfl, -⟩ | ⟨_, _, rfl, -, -⟩
    · rfl
    · rfl

/-- **A fault of loading is none of the document just for one of the other reasons.** -/
theorem isDocument_of_load (hw : w.Sound) {e : FileFault}
    (h : (ofBytes file bytes >>= fun s => (placed w t s).mapError .badPath) = .error e) :
    e.isDocument = false ↔ Undocumented w file bytes e := by
  constructor
  · intro hdocument
    rcases bind_eq_error.mp h with hread | ⟨s, hread, hplaced⟩
    · rcases (isDocument_of_ofBytes hread).mp hdocument with
        ⟨_, rfl, hbytes⟩ | ⟨_, _, rfl, htext, hlong⟩
      · exact .bytes hbytes
      · exact .digits htext hlong
    · obtain ⟨fault, hfault, rfl⟩ := mapError_eq_error.mp hplaced
      obtain ⟨p, hp, hresolve⟩ := placed_eq_error_iff.mp hfault
      have hbytes := bytewise_of_ofBytes hread hp
      rcases (Path.resolve_eq_error_iff hw hbytes).mp hresolve with
        ⟨rfl, hno⟩ | ⟨rfl, hno, hnull⟩
      · exact .home hread hp hno
      · exact .null hread hp hno hnull
  · intro hreason
    cases hreason with
    | bytes => rfl
    | digits => rfl
    | home => rfl
    | null => rfl

/-! ## 3. Each of the reasons -/

/-- The text of an entry with an integer. -/
def integerEntry (name : String) (digits : List Char) : List Char :=
  name.toList ++ (' ' :: '=' :: ' ' :: digits)

/-- **A file of one integer with too many digits is refused for it.** -/
theorem ofBytes_of_digits {name : String} (hname : Toml.IsBareName name) {digits : List Char}
    (hdigits : ∀ c ∈ digits, isAsciiDigit c = true) (hhead : digits.head? ≠ some '0')
    (hlong : Number.digitLimit < digits.length) :
    ofBytes file ((integerEntry name digits).flatMap String.utf8EncodeChar) =
      .error (.badSyntax file (.tooLong digits.length)) := by
  have htext : ((integerEntry name digits).flatMap String.utf8EncodeChar).toByteArray =
      (String.ofList (integerEntry name digits)).toUTF8 := String.toByteArray_ofList.symm
  have hreturn : '\r' ∉ integerEntry name digits := by
    have hbare : '\r' ∉ name.toList := fun h => absurd (hname.2 '\r' h) (by decide)
    have hdigit : '\r' ∉ digits := fun h => absurd (hdigits '\r' h) (by decide)
    unfold integerEntry
    simp [hbare, hdigit]
  rw [ofBytes_of_text htext, String.toList_ofList, Toml.plainLines_eq_self hreturn]
  unfold integerEntry
  rw [Toml.readChars_of_overlong hdigits hhead hlong hname]
  rfl

/-- **A fault of loading settings is one of the document, with some exceptions.** Loading a file
    that is there gives settings, or a fault; and the fault is none of the document just for one of
    the other reasons. Each of them does occur: bytes that are no text, an integer that is too long,
    and a default map that leads nowhere are reported as such. -/
theorem settings_faults {w : Path.Place} (hw : w.Sound) {named : Option Path} {file : Path}
    {t : Tree} {bytes : List UInt8} (hfile : (named.getD (standardPath w)).resolve w = .ok file)
    (hthere : t.look file = .file bytes) :
    let loaded := (load w named : StateM Tree (Except FileFault (Settings × List Rough))) t
    loaded.2 = t ∧
    (∀ e, loaded.1 = .error e → (e.isDocument = false ↔ Undocumented w file bytes e)) ∧
    (¬ bytes.toByteArray.IsValidUTF8 → ∃ e, loaded.1 = .error (.notText e)) ∧
    (∀ (name : String) (digits : List Char), Toml.IsBareName name →
      (∀ c ∈ digits, isAsciiDigit c = true) → digits.head? ≠ some '0' →
      Number.digitLimit < digits.length →
      bytes = (integerEntry name digits).flatMap String.utf8EncodeChar →
      loaded.1 = .error (.badSyntax file (.tooLong digits.length))) ∧
    (∀ s p, ofBytes file bytes = .ok s → s.defaultFile = some p → p.NoHome w →
      loaded.1 = .error (.badPath .noHome)) ∧
    (∀ s p, ofBytes file bytes = .ok s → s.defaultFile = some p → ¬ p.NoHome w →
      (∃ name ∈ p.names, Path.null ∈ name.points) →
      loaded.1 = .error (.badPath .nullCharacter)) := by
  intro loaded
  have hloaded : loaded = (ofBytes file bytes >>= fun s => (placed w t s).mapError .badPath, t) :=
    load_eq hfile hthere
  have hplaced : ∀ s p e, ofBytes file bytes = .ok s → s.defaultFile = some p →
      p.resolve w = .error e → loaded.1 = .error (.badPath e) := by
    intro s p e hs hp he
    rw [hloaded]
    exact bind_eq_error.mpr (.inr ⟨s, hs,
      mapError_eq_error.mpr ⟨e, placed_eq_error_iff.mpr ⟨p, hp, he⟩, rfl⟩⟩)
  refine ⟨by rw [hloaded], fun e he => ?_, fun hbytes => ?_, ?_, ?_, ?_⟩
  · rw [hloaded] at he
    exact isDocument_of_load hw he
  · obtain ⟨e, he⟩ := ofBytes_of_not_text file hbytes
    rw [hloaded]
    exact ⟨e, bind_eq_error.mpr (.inl he)⟩
  · intro name digits hname hdigits hhead hlong hbytes
    rw [hloaded, hbytes]
    exact bind_eq_error.mpr (.inl (ofBytes_of_digits hname hdigits hhead hlong))
  · intro s p hs hp hno
    have hbytes := bytewise_of_ofBytes hs hp
    exact hplaced s p _ hs hp ((Path.resolve_eq_error_iff hw hbytes).mpr (.inl ⟨rfl, hno⟩))
  · intro s p hs hp hno hnull
    have hbytes := bytewise_of_ofBytes hs hp
    exact hplaced s p _ hs hp ((Path.resolve_eq_error_iff hw hbytes).mpr (.inr ⟨rfl, hno, hnull⟩))

/-- A byte that starts no character, an integer of one digit too many, the home of somebody who has
    none, and a name with the character with number 0. -/
theorem settings_faults_each :
    let w : Path.Place := { folder := ⟨.root, ["work"]⟩, home := ⟨.root, ["home"]⟩ }
    let file : Path := ⟨.root, ["work", "config.toml"]⟩
    let holding (bytes : List UInt8) : Tree := { files := [(file.names, bytes)] }
    let loaded (bytes : List UInt8) :=
      (load w (some (Path.ofText "config.toml")) :
        StateM Tree (Except FileFault (Settings × List Rough))) (holding bytes)
    let ones := List.replicate (Number.digitLimit + 1) '1'
    let withMap (text : String) : Settings := { defaultFile := some (Path.ofText text) }
    (loaded [0xFF]).1 = .error (.notText ⟨0xFF, 0, 1, .invalidStart⟩) ∧
      Undocumented w file [0xFF] (.notText ⟨0xFF, 0, 1, .invalidStart⟩) ∧
      (loaded ((integerEntry "n" ones).flatMap String.utf8EncodeChar)).1 =
        .error (.badSyntax file (.tooLong ones.length)) ∧
      (loaded (withMap "~nobody/map.json").toBytes).1 = .error (.badPath .noHome) ∧
      (loaded (withMap "maps/\x00").toBytes).1 = .error (.badPath .nullCharacter) := by
  intro w file holding loaded ones withMap
  have hw : w.Sound := by
    intro home hhome name hname
    obtain rfl := List.mem_singleton.mp hhome
    obtain rfl := List.mem_singleton.mp hname
    exact ⟨Path.bytewise_ofString "home", by decide⟩
  have hfile : ((some (Path.ofText "config.toml")).getD (standardPath w)).resolve w =
      .ok file := by
    have hexpand : Path.expandHome w (Path.ofText "config.toml") =
        .ok ⟨.here, ["config.toml"]⟩ := rfl
    have hplace : Path.absolute w ⟨.here, ["config.toml"]⟩ = file := by decide
    exact (Path.resolve_of_nameFault? hexpand (by decide)).trans (congrArg _ hplace)
  have hthere : ∀ bytes, (holding bytes).look file = .file bytes := fun _ => rfl
  have hproper : ∀ text, ∀ p ∈ (withMap text).defaultFile, p.Proper := by
    intro text p hp
    cases hp
    exact Path.proper_ofText text
  have hclean : ∀ text : String, ∀ p ∈ (withMap text).defaultFile, p.text.Clean := by
    intro text p hp
    cases hp
    exact Path.clean_text_ofText text
  obtain ⟨-, hreason, -⟩ := settings_faults hw hfile (hthere [0xFF])
  have hdigits : ∀ digits : List Char, (∀ c ∈ digits, isAsciiDigit c = true) →
      digits.head? ≠ some '0' → Number.digitLimit < digits.length →
      (loaded ((integerEntry "n" digits).flatMap String.utf8EncodeChar)).1 =
        .error (.badSyntax file (.tooLong digits.length)) := by
    intro digits hdigit hhead hlong
    obtain ⟨-, -, -, hinteger, -⟩ := settings_faults hw hfile
      (hthere ((integerEntry "n" digits).flatMap String.utf8EncodeChar))
    exact hinteger "n" digits (by decide) hdigit hhead hlong rfl
  have hmap : ∀ text : String, ((Path.ofText text).NoHome w →
        (loaded (withMap text).toBytes).1 = .error (.badPath .noHome)) ∧
      (¬ (Path.ofText text).NoHome w →
        (∃ name ∈ (Path.ofText text).names, Path.null ∈ name.points) →
        (loaded (withMap text).toBytes).1 = .error (.badPath .nullCharacter)) := by
    intro text
    have hread := ofBytes_toBytes file (hproper text)
    rw [writable_of_clean (hclean text)] at hread
    obtain ⟨-, -, -, -, hhome, hnull⟩ := settings_faults hw hfile (hthere (withMap text).toBytes)
    exact ⟨hhome _ _ hread rfl, hnull _ _ hread rfl⟩
  have hbyte : (loaded [0xFF]).1 = .error (.notText ⟨0xFF, 0, 1, .invalidStart⟩) := by
    unfold loaded
    rw [load_eq hfile (hthere [0xFF])]
    rfl
  refine ⟨hbyte, (hreason _ hbyte).mp rfl, ?_, ?_, ?_⟩
  · refine hdigits ones (fun c hc => ?_) ?_ ?_
    · obtain rfl := List.eq_of_mem_replicate hc
      rfl
    · rw [List.head?_replicate]
      decide
    · rw [List.length_replicate]
      exact Nat.lt_succ_self _
  · refine (hmap "~nobody/map.json").1 ?_
    exact ⟨rfl, "~nobody", ["map.json"], ("nobody" : Rough).points, rfl, rfl, by decide, by decide,
      rfl⟩
  · refine (hmap "maps/\x00").2 ?_ ⟨"\x00", by decide, by decide⟩
    intro hno
    obtain ⟨-, name, rest, who, hnames, hname, -⟩ := hno
    cases hnames
    cases hname

end Load

end MapQuery.Settings
