import MapQuery.Proofs.Json.Overlong
import MapQuery.Proofs.Map.Unfit
import MapQuery.Proofs.Text.Utf8

/-!
# Files that are refused

A file is refused as map data if nothing can be read there, if its text is no JSON, or if the JSON
is no document. There are three other reasons, none of which counts as one of these: the bytes are
no text, the text has an integer that is too long, or the document has a number that fits no field.

* `Unrepresentable` -- the three;
* `loading_faults` -- a fault that is none of map data is one of the three, and each of them keeps a
  file or a document from being loaded.
-/

namespace MapQuery.Document

open Text

/-! ## 1. The reasons -/

/-- **Why a file is refused other than as map data.** -/
inductive Unrepresentable : Stored → FileFault → Prop
  | bytes {bytes : List UInt8} {e : Utf8.Fault} : ¬ bytes.toByteArray.IsValidUTF8 →
      Unrepresentable (.file bytes) (.notText e)
  | digits {bytes : List UInt8} {text : String} {e : Number.IntegerFault} :
      bytes.toByteArray = text.toUTF8 → Json.Overlong (unifyLineEnds text.toList) e →
      Unrepresentable (.file bytes) (.notJson (.number e))
  | number {bytes : List UInt8} {text : String} {j : Json} {e : Field.Fault} :
      bytes.toByteArray = text.toUTF8 → Json.readChars (unifyLineEnds text.toList) = .ok j →
      Unfit j e → Unrepresentable (.file bytes) (.document (.number e))

/-- What is read of a file, by what its bytes stand for. -/
theorem ofStored_of_text (p : Path) {bytes : List UInt8} {text : String}
    (h : bytes.toByteArray = text.toUTF8) : (ofStored p (.file bytes)).1 =
      match Json.readChars (unifyLineEnds text.toList) with
      | .error e => .error (.notJson e)
      | .ok j => (load j).outcome.mapError .document := by
  unfold ofStored Stored.bytes ofText Json.read
  simp only [Utf8.decode_eq_ok_iff.mpr h, String.toList_ofList]
  cases Json.readChars (unifyLineEnds text.toList) <;> rfl

/-- A file of the characters of a document holds what is loaded of it. -/
theorem ofStored_of_chars (p : Path) {chars : List Char} {j : Json} {c : Content}
    (hread : Json.readChars (unifyLineEnds chars) = .ok j) (hload : (load j).outcome = .ok c) :
    (ofStored p (.file (chars.flatMap String.utf8EncodeChar))).1 = .ok c := by
  rw [ofStored_of_text p String.toByteArray_ofList.symm, String.toList_ofList, hread]
  exact mapError_eq_ok.mpr hload

theorem ofStored_of_not_text (p : Path) {bytes : List UInt8}
    (h : ¬ bytes.toByteArray.IsValidUTF8) :
    ∃ e, (ofStored p (.file bytes)).1 = .error (.notText e) := by
  obtain ⟨e, he⟩ := Utf8.decode_eq_error_iff.mpr h
  refine ⟨e, ?_⟩
  unfold ofStored Stored.bytes
  simp only [he]

/-! ## 2. No other reasons -/

/-- **A fault of a document is none of map data just if a number fits no field.** -/
theorem isData_of_load {j : Json} {f : Fault} (h : (load j).outcome = .error f) :
    (FileFault.document f).isData = false ↔ ∃ e, f = .number e ∧ Unfit j e := by
  constructor
  · intro hdata
    cases f with
    | number e => exact ⟨e, rfl, unfit_of_load h⟩
    | notADocument => cases hdata
    | badElement => cases hdata
    | badReferences => cases hdata
    | badMember => cases hdata
    | badBounds => cases hdata
  · rintro ⟨e, rfl, -⟩
    rfl

/-- **A fault of a file is none of map data just for one of the three reasons.** -/
theorem isData_of_ofStored {p : Path} {s : Stored} {f : FileFault}
    (h : (ofStored p s).1 = .error f) : f.isData = false ↔ Unrepresentable s f := by
  constructor
  · intro hdata
    cases s with
    | nothing =>
      cases h
      cases hdata
    | directory =>
      cases h
      cases hdata
    | blocked =>
      cases h
      cases hdata
    | file bytes =>
      by_cases hvalid : bytes.toByteArray.IsValidUTF8
      · have htext : bytes.toByteArray = (String.ofByteArray _ hvalid).toUTF8 := rfl
        rw [ofStored_of_text p htext] at h
        split at h
        · next e he =>
          cases h
          cases e with
          | syntaxAt => cases hdata
          | number e => exact .digits htext (Json.overlong_of_readChars he)
        · next j hj =>
          obtain ⟨f', hf', rfl⟩ := mapError_eq_error.mp h
          obtain ⟨e, rfl, hunfit⟩ := (isData_of_load hf').mp hdata
          exact .number htext hj hunfit
      · obtain ⟨e, he⟩ := ofStored_of_not_text p hvalid
        cases h.symm.trans he
        exact .bytes hvalid
  · rintro (_ | _ | _) <;> rfl

/-! ## 3. Each of the reasons -/

/-- Without carriage returns all line ends are alike. -/
theorem unifyLineEnds_of_not_mem {s : List Char} (h : '\r' ∉ s) : unifyLineEnds s = s := by
  fun_induction unifyLineEnds s with
  | case1 => rfl
  | case2 s _ => exact absurd List.mem_cons_self h
  | case3 s _ _ => exact absurd List.mem_cons_self h
  | case4 c s _ _ ih => rw [ih fun hs => h (List.mem_cons_of_mem c hs)]

/-- **A file that is one integer with too many digits is refused for it.** -/
theorem ofStored_of_digits (p : Path) {digits : List Char}
    (hdigits : ∀ c ∈ digits, isAsciiDigit c = true) (hhead : digits.head? ≠ some '0')
    (hlong : Number.digitLimit < digits.length) :
    (ofStored p (.file (digits.flatMap String.utf8EncodeChar))).1 =
      .error (.notJson (.number (.tooLong digits.length))) := by
  have htext : (digits.flatMap String.utf8EncodeChar).toByteArray =
      (String.ofList digits).toUTF8 := String.toByteArray_ofList.symm
  have hreturn : '\r' ∉ digits := fun h => nomatch hdigits _ h
  rw [ofStored_of_text p htext, String.toList_ofList, unifyLineEnds_of_not_mem hreturn,
    Json.readChars_of_overlong hdigits hhead hlong]

/-- A node with a latitude. -/
def nodeAt (lat : Int) : Fields := [("type", .str "node"), ("id", .int 1), ("lat", .int lat)]

/-- The latitude of the node is refused. -/
theorem load_nodeAt {lat : Int} {e : Field.Fault} (h : Field.toReal (.int lat) = .error e)
    (he : e.isOverflow = true) :
    (load (.obj [("elements", .arr [.obj (nodeAt lat)])])).outcome = .error (.number e) := by
  have hnode : attributes .node (nodeAt lat) = .error e := by
    show ((Field.toReal (.int lat)).map some >>= fun _ => _) = _
    rw [h]
    rfl
  have hgather : gather {} [.obj (nodeAt lat)] = ({}, some (.number e)) := by
    have helement : elementOf (.obj (nodeAt lat)) = some (.node, nodeAt lat) := rfl
    unfold gather gatherOne
    simp only [helement, hnode, Fault.ofElement, he, if_true]
  have hparts : parts (.obj [("elements", .arr [.obj (nodeAt lat)])]) =
      some ([.obj (nodeAt lat)], .null) := rfl
  unfold load
  simp only [hparts, hgather]

theorem huge_two_pow {k : Nat} (h : 1024 ≤ k) : Huge (.int (Nat.pow 2 k)) := by
  refine ⟨_, rfl, ?_⟩
  rw [Int.natAbs_natCast]
  exact Nat.le_add_right_of_le (Nat.pow_le_pow_right (by decide) h)

/-! ## 4. Loading -/

/-- **A fault of loading is one of map data, with three exceptions.** Of the faults of a file the
    exceptions are the three reasons, and of the faults of a document those about a number that fits
    no field. Each of them does occur: bytes that are no text, and an integer that is too long, are
    reported as such, and no document with a number that fits no field is loaded. -/
theorem loading_faults (p : Path) (s : Stored) (j : Json) :
    (∀ f, (ofStored p s).1 = .error f → (f.isData = false ↔ Unrepresentable s f)) ∧
    (∀ f, (load j).outcome = .error f →
      ((FileFault.document f).isData = false ↔ ∃ e, f = .number e ∧ Unfit j e)) ∧
    (∀ bytes : List UInt8, s = .file bytes → ¬ bytes.toByteArray.IsValidUTF8 →
      ∃ e, (ofStored p s).1 = .error (.notText e)) ∧
    (∀ digits : List Char, s = .file (digits.flatMap String.utf8EncodeChar) →
      (∀ c ∈ digits, isAsciiDigit c = true) → digits.head? ≠ some '0' →
      Number.digitLimit < digits.length →
      (ofStored p s).1 = .error (.notJson (.number (.tooLong digits.length)))) ∧
    (∀ e, Unfit j e → ∃ f, (load j).outcome = .error f) := by
  refine ⟨fun _ => isData_of_ofStored, fun _ => isData_of_load, ?_, ?_, fun _ => load_of_unfit⟩
  · rintro bytes rfl hbytes
    exact ofStored_of_not_text p hbytes
  · rintro digits rfl hdigits hhead hlong
    exact ofStored_of_digits p hdigits hhead hlong

/-- A byte that starts no character, an integer of one digit too many, and a latitude that no double
    is near to. -/
theorem loading_faults_each :
    let p := Path.ofText "map.json"
    let ones := List.replicate (Number.digitLimit + 1) '1'
    let j := Json.obj [("elements", .arr [.obj (nodeAt (Nat.pow 2 1024))])]
    Unrepresentable (.file [0xFF]) (.notText ⟨0xFF, 0, 1, .invalidStart⟩) ∧
      (∃ e, (ofStored p (.file [0xFF])).1 = .error (.notText e)) ∧
      (ofStored p (.file (ones.flatMap String.utf8EncodeChar))).1 =
        .error (.notJson (.number (.tooLong ones.length))) ∧
      (∃ e, Fault.number .tooLarge = .number e ∧ Unfit j e) ∧
      ∃ f, (load j).outcome = .error f := by
  intro p ones j
  have hbyte : (ofStored p (.file [0xFF])).1 = .error (.notText ⟨0xFF, 0, 1, .invalidStart⟩) := rfl
  have hload := load_nodeAt (toReal_overflow.mpr ⟨huge_two_pow (Nat.le_refl 1024), rfl⟩).1 rfl
  obtain ⟨hfile, hdocument, htext, -, hunfit⟩ := loading_faults p (.file [0xFF]) j
  obtain ⟨-, -, -, hdigits, -⟩ := loading_faults p (.file (ones.flatMap String.utf8EncodeChar)) j
  have hj := (hdocument _ hload).mp rfl
  refine ⟨(hfile _ hbyte).mp rfl, htext _ rfl (Utf8.decode_eq_error_iff.mp ⟨_, rfl⟩), ?_, hj, ?_⟩
  · refine hdigits ones rfl (fun c hc => ?_) ?_ ?_
    · obtain rfl := List.eq_of_mem_replicate hc
      rfl
    · rw [List.head?_replicate]
      decide
    · rw [List.length_replicate]
      exact Nat.lt_succ_self _
  · obtain ⟨e, -, he⟩ := hj
    exact hunfit e he

end MapQuery.Document
