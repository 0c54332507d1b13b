import MapQuery.Proofs.Query.Keyed
import MapQuery.Proofs.Query.Operand
import MapQuery.Proofs.Query.Spelling

/-!
# Predicates written as queries

A predicate is written as a query with every part in parentheses and every operand between
quotation marks. Compiled again, the query gives the predicate back.

* `Predicate.written` -- the query, and `Predicate.tokens`, what it is cut into;
* `Predicate.Writable` -- the predicates that some query means with the given setting;
* `cuts_written` -- the query is cut into these tokens, by induction on the predicate;
* `parses_tokens` -- the tokens are an expression for the predicate, by the same induction;
* `compile_written` -- the round trip.
-/

namespace MapQuery

open Text Query

/-! ## 1. Queries for predicates -/

namespace Predicate

/-- A part in parentheses. -/
def inParens (w : List Char) : List Char := '(' :: (w ++ [')'])

/-- A key, a colon, and an operand. -/
def operand (key value : String) : List Char := key.toList ++ ':' :: quote value

/-- A predicate as a query. The one for everything is the empty query, and nothing has none. -/
def written : Predicate → List Char
  | .always | .never => []
  | .not p => '!' :: inParens p.written
  | .both p q => inParens p.written ++ inParens q.written
  | .either p q => inParens p.written ++ '|' :: inParens q.written
  | .id n => operand "id" (String.ofList (intDigits n))
  | .changeset n => operand "changeset" (String.ofList (intDigits n))
  | .version n => operand "version" (String.ofList (intDigits n))
  | .substring t => quote t.key ++ ':' :: quote t.value
  | .exact t => quote t.key ++ '=' :: quote t.value
  | .flag key _ => quote key ++ ['?']
  | .text t => quote t.text
  | .kind k => operand "type" k.name
  | .user name => operand "user" (name.getD "anonymous")
  | .role name => operand "role" name
  | .count d r => operand d.keyword r.text
  | .status t => t.keyword.toList
  | .hasChild p => "child".toList ++ inParens p.written
  | .hasParent p => "parent".toList ++ inParens p.written
  | .area t => (areaKeyword t.source t.quantifier).toList

/-- The tokens of that query. -/
def tokens : Predicate → List Token
  | .always | .never => []
  | .not p => .not :: grouped p.tokens
  | .both p q => grouped p.tokens ++ grouped q.tokens
  | .either p q => grouped p.tokens ++ .or :: grouped q.tokens
  | .id n => [.key "id", .colon, .key (String.ofList (intDigits n))]
  | .changeset n => [.key "changeset", .colon, .key (String.ofList (intDigits n))]
  | .version n => [.key "version", .colon, .key (String.ofList (intDigits n))]
  | .substring t => [.key t.key, .colon, .key t.value]
  | .exact t => [.key t.key, .equals, .key t.value]
  | .flag key _ => [.key key, .question]
  | .text t => [.key t.text]
  | .kind k => [.key "type", .colon, .key k.name]
  | .user name => [.key "user", .colon, .key (name.getD "anonymous")]
  | .role name => [.key "role", .colon, .key name]
  | .count d r => [.key d.keyword, .colon, .key r.text]
  | .status t => [.key t.keyword]
  | .hasChild p => .key "child" :: grouped p.tokens
  | .hasParent p => .key "parent" :: grouped p.tokens
  | .area t => [.key (areaKeyword t.source t.quantifier)]

/-- The predicates that a query means with a setting. Their tests are prepared the way the setting
    says, their numbers can be read, and no operand is taken for a keyword. -/
def Writable (s : Setting) : Predicate → Prop
  | .always | .never => False
  | .not p => p.Writable s
  | .both p q | .either p q => p.Writable s ∧ q.Writable s
  | .id n | .changeset n | .version n => Fits n
  | .substring t => SubstringTest.build t.key t.value s.options = .ok t ∧
      t.key ∉ operandKeys ∧ (t.key = "timestamp" → '/' ∉ t.value.toList)
  -- no test can be built for the empty key
  | .exact t => ExactTest.build t.key t.value s.options = .ok t
  | .flag _ fallback => fallback = false
  | .text t => TextTest.build t.text s.options = .ok t ∧ t.text ∉ keywords
  | .kind _ | .role _ | .status _ => True
  | .user name => name ≠ some "anonymous"
  | .count d r => d ≠ .timestamp ∧ Fits r.lo ∧ Fits r.hi ∧ 0 ≤ r.hi
  -- the key alone, or with nothing in parentheses, asks for any child or parent
  | .hasChild p | .hasParent p => p = .always ∨ p.Writable s
  | .area t => t.bounds = s.context.bind fun m => m.bounds t.source

end Predicate

namespace Query

open Predicate

/-! ## 2. The query is cut into its tokens -/

section

variable {n : Nat} {r : List Char} {l : List Token} {after : QueryText}

/-- Parentheses around what is cut into tokens, whatever stands behind them. -/
theorem cuts_inParens {w : List Char} {m : List Token}
    (hw : ∀ {r l}, EndsWord r → Cuts (⟨n, r⟩ : QueryText) l after →
      Cuts (⟨n, w ++ r⟩ : QueryText) (m ++ l) after)
    (h : Cuts (⟨n, r⟩ : QueryText) l after) :
    Cuts (⟨n, inParens w ++ r⟩ : QueryText) (grouped m ++ l) after := by
  have e : inParens w ++ r = '(' :: (w ++ ')' :: r) := by simp [inParens]
  have e' : grouped m ++ l = .leftParen :: (m ++ .rightParen :: l) := by simp [grouped]
  rw [e, e']
  exact cuts_sign rfl (hw (endsWord_sign (t := .rightParen) rfl r) (cuts_sign rfl h))

theorem cuts_operand {key : String} (hkey : IsBareKey key) (value : String)
    (h : Cuts (⟨n, r⟩ : QueryText) l after) :
    Cuts (⟨n, operand key value ++ r⟩ : QueryText) (.key key :: .colon :: .key value :: l)
      after := by
  unfold operand
  rw [List.append_assoc]
  exact cuts_bare hkey (endsWord_sign (t := .colon) rfl _) (cuts_sign rfl (cuts_quote value h))

/-- A bare key in front of parentheses. -/
theorem cuts_bare_inParens {key : String} (hkey : IsBareKey key) {w : List Char} {m : List Token}
    (hw : ∀ {r l}, EndsWord r → Cuts (⟨n, r⟩ : QueryText) l after →
      Cuts (⟨n, w ++ r⟩ : QueryText) (m ++ l) after)
    (h : Cuts (⟨n, r⟩ : QueryText) l after) :
    Cuts (⟨n, key.toList ++ inParens w ++ r⟩ : QueryText) (.key key :: grouped m ++ l) after := by
  rw [List.append_assoc, List.cons_append]
  exact cuts_bare hkey (endsWord_sign (t := .leftParen) rfl _) (cuts_inParens hw h)

/-- **Keywords need no quotation marks.** -/
theorem isBareKey_keyword : ∀ key ∈ "timestamp" :: (keywords ++ operandKeys), IsBareKey key := by
  decide +kernel

theorem isBareKey_dimension (d : Dimension) : IsBareKey d.keyword :=
  isBareKey_keyword _ (by cases d <;> decide)

theorem isBareKey_status (t : Status) : IsBareKey t.keyword :=
  isBareKey_keyword _ (by cases t <;> decide)

theorem isBareKey_area (source : AreaSource) (q : Quantifier) :
    IsBareKey (areaKeyword source q) :=
  isBareKey_keyword _ (by cases source <;> cases q <;> decide)

/-- **A written predicate is cut into its tokens**, where nothing behind it prolongs a word. -/
theorem cuts_written (p : Predicate) : ∀ {r : List Char} {l : List Token}, EndsWord r →
    Cuts (⟨n, r⟩ : QueryText) l after →
      Cuts (⟨n, p.written ++ r⟩ : QueryText) (p.tokens ++ l) after := by
  induction p with
  | always => exact fun _ h => h
  | never => exact fun _ h => h
  | not p ih => exact fun _ h => cuts_sign rfl (cuts_inParens ih h)
  | both p q ihp ihq =>
    intro r l _ h
    show Cuts ⟨n, inParens p.written ++ inParens q.written ++ r⟩
      (grouped p.tokens ++ grouped q.tokens ++ l) after
    rw [List.append_assoc, List.append_assoc]
    exact cuts_inParens ihp (cuts_inParens ihq h)
  | either p q ihp ihq =>
    intro r l _ h
    show Cuts ⟨n, inParens p.written ++ '|' :: inParens q.written ++ r⟩
      (grouped p.tokens ++ .or :: grouped q.tokens ++ l) after
    rw [List.append_assoc, List.append_assoc]
    exact cuts_inParens ihp (cuts_sign rfl (cuts_inParens ihq h))
  | id n => exact fun _ h => cuts_operand (isBareKey_keyword _ (by decide)) _ h
  | changeset n => exact fun _ h => cuts_operand (isBareKey_keyword _ (by decide)) _ h
  | version n => exact fun _ h => cuts_operand (isBareKey_keyword _ (by decide)) _ h
  | substring t =>
    intro r l _ h
    show Cuts ⟨n, quote t.key ++ ':' :: quote t.value ++ r⟩ _ after
    rw [List.append_assoc]
    exact cuts_quote t.key (cuts_sign rfl (cuts_quote t.value h))
  | exact t =>
    intro r l _ h
    show Cuts ⟨n, quote t.key ++ '=' :: quote t.value ++ r⟩ _ after
    rw [List.append_assoc]
    exact cuts_quote t.key (cuts_sign rfl (cuts_quote t.value h))
  | flag key fallback =>
    intro r l _ h
    show Cuts ⟨n, quote key ++ ['?'] ++ r⟩ _ after
    rw [List.append_assoc]
    exact cuts_quote key (cuts_sign rfl h)
  | text t => exact fun _ h => cuts_quote t.text h
  | kind k => exact fun _ h => cuts_operand (isBareKey_keyword _ (by decide)) _ h
  | user name => exact fun _ h => cuts_operand (isBareKey_keyword _ (by decide)) _ h
  | role name => exact fun _ h => cuts_operand (isBareKey_keyword _ (by decide)) _ h
  | count d r => exact fun _ h => cuts_operand (isBareKey_dimension d) _ h
  | status t => exact fun hr h => cuts_bare (isBareKey_status t) hr h
  | hasChild p ih => exact fun _ h => cuts_bare_inParens (isBareKey_keyword _ (by decide)) ih h
  | hasParent p ih => exact fun _ h => cuts_bare_inParens (isBareKey_keyword _ (by decide)) ih h
  | area t => exact fun hr h => cuts_bare (isBareKey_area t.source t.quantifier) hr h

end

/-! ## 3. The tokens are an expression for the predicate -/

/-- The digits of an integer are an operand that asks for it. -/
theorem numberOf_intDigits {n : Int} (what : Wanted) (f : Int → Predicate) (h : Fits n) :
    (Cursor.numberOf what (String.ofList (intDigits n))).map f = .ok (f n) := by
  unfold Cursor.numberOf
  rw [String.toList_ofList, Range.readNumber_intDigits h]
  rfl

theorem rangeOf_text {r : Range} (what : Wanted) (hlo : Fits r.lo) (hhi : Fits r.hi)
    (h0 : 0 ≤ r.hi) : Cursor.rangeOf what r.text = .ok r := by
  unfold Cursor.rangeOf
  rw [Range.read_text hlo hhi h0]

/-- The operand of a quantity other than a time span is a range. -/
theorem operandTest_dimension (s : Setting) {d : Dimension} (hd : d ≠ .timestamp)
    (value : String) :
    operandTest s d.keyword value = (Cursor.rangeOf .range value).map (.count d) := by
  cases d with
  | timestamp => exact absurd rfl hd
  | _ => rfl

theorem operandTest_kind (s : Setting) (k : Kind) :
    operandTest s "type" k.name = .ok (.kind k) := by
  show valueTest s.options "type" k.name = _
  rw [valueTest, if_pos rfl, (Kind.ofName_eq_some_iff _ k).mpr rfl]

theorem operandTest_user (s : Setting) {name : Option String} (h : name ≠ some "anonymous") :
    operandTest s "user" (name.getD "anonymous") = .ok (.user name) := by
  cases name with
  | none => rfl
  | some name =>
    have hname : name ≠ "anonymous" := fun e => h (congrArg some e)
    show Except.ok (Predicate.user (if name = "anonymous" then none else some name)) = _
    rw [if_neg hname]

theorem substringTest_of_build {t : SubstringTest} {o : TextOptions}
    (h : SubstringTest.build t.key t.value o = .ok t) :
    substringTest o t.key t.value = .ok (.substring t) := by
  unfold substringTest
  rw [h]

theorem exactTest_of_build {t : ExactTest} {o : TextOptions}
    (h : ExactTest.build t.key t.value o = .ok t) :
    exactTest o t.key t.value = .ok (.exact t) := by
  unfold exactTest
  rw [h]

theorem textTest_of_build {t : TextTest} {o : TextOptions}
    (h : TextTest.build t.text o = .ok t) : textTest o t.text = .ok (.text t) := by
  unfold textTest
  rw [h]

/-- **The tokens of a predicate that can be written are an expression for it.** -/
theorem parses_tokens (s : Setting) (p : Predicate) (h : p.Writable s) :
    Parses s p.tokens (some p) := by
  -- nothing in parentheses is no part, and asks for anything
  have hpart : ∀ q : Predicate, (q.Writable s → Parses s q.tokens (some q)) →
      q = .always ∨ q.Writable s → ∃ x, x.getD .always = q ∧ Parses s q.tokens x := by
    intro q ih hq
    rcases hq with rfl | hq
    · exact ⟨none, rfl, parses_nil s⟩
    · exact ⟨some q, rfl, ih hq⟩
  induction p with
  | always => exact h.elim
  | never => exact h.elim
  | not p ih => exact parses_factor (reads_not (reads_group (ih h)))
  | both p q ihp ihq =>
    exact parses_and (reads_group (ihp h.1)) rfl (by decide) (parses_factor (reads_group (ihq h.2)))
  | either p q ihp ihq =>
    exact parses_or (reads_group (ihp h.1)) (parses_factor (reads_group (ihq h.2)))
  | id n => exact parses_factor (reads_colon (numberOf_intDigits .id .id h))
  | changeset n => exact parses_factor (reads_colon (numberOf_intDigits .changeset .changeset h))
  | version n => exact parses_factor (reads_colon (numberOf_intDigits .version .version h))
  | substring t =>
    obtain ⟨hbuild, hkey, hspan⟩ := h
    refine parses_factor (reads_colon ?_)
    rw [operandTest_other s hkey hspan]
    exact substringTest_of_build hbuild
  | exact t => exact parses_factor (reads_equals (exactTest_of_build h))
  | flag key fallback =>
    obtain rfl : fallback = false := h
    exact parses_factor (reads_question s key)
  | text t => exact parses_factor (reads_text h.2 (textTest_of_build h.1))
  | kind k => exact parses_factor (reads_colon (operandTest_kind s k))
  | user name => exact parses_factor (reads_colon (operandTest_user s h))
  | role name => exact parses_factor (reads_colon rfl)
  | count d r =>
    obtain ⟨hd, hlo, hhi, h0⟩ := h
    refine parses_factor (reads_colon ?_)
    rw [operandTest_dimension s hd, rangeOf_text .range hlo hhi h0]
    rfl
  | status t => exact parses_factor (reads_status s t)
  | hasChild p ih =>
    obtain ⟨x, hx, hp⟩ := hpart p ih h
    have hfactor := parses_factor (reads_child rfl (reads_group hp))
    rwa [hx] at hfactor
  | hasParent p ih =>
    obtain ⟨x, hx, hp⟩ := hpart p ih h
    have hfactor := parses_factor (reads_parent rfl (reads_group hp))
    rwa [hx] at hfactor
  | area t =>
    obtain ⟨source, q, bounds⟩ := t
    obtain rfl : bounds = s.context.bind fun m => m.bounds source := h
    exact parses_factor (reads_area s source q)

/-! ## 4. The round trip -/

/-- **A predicate written as a query and compiled is the predicate again.** -/
theorem compile_written (s : Setting) (p : Predicate) (h : p = .always ∨ p.Writable s) :
    (compile s (String.ofList p.written)).outcome = .ok p := by
  have hcuts : Cuts (QueryText.ofString (String.ofList p.written)) (p.tokens ++ [.endOfQuery])
      ⟨p.written.length, []⟩ := by
    have e : QueryText.ofString (String.ofList p.written) =
        ⟨p.written.length, p.written ++ []⟩ := by
      rw [QueryText.ofString, String.toList_ofList, List.append_nil]
    rw [e]
    exact cuts_written p endsWord_nil ⟨rfl, rfl⟩
  rcases h with rfl | h
  · exact (parses_nil s).compileFrom hcuts
  · exact (parses_tokens s p h).compileFrom hcuts

/-- A negated row with quoted marks in it, beside a range from below zero. -/
theorem compile_written_nested :
    let p : Predicate := .either
      (.not (.both (.text ⟨"an \"or\"", {}, .needle (Text.fold "an \"or\"" false)⟩)
        (.hasChild (.status .new))))
      (.count .tags ⟨-5, 10, by decide⟩)
    p.Writable { now := 0 } ∧
      (compile { now := 0 } "(!((\"an \\\"or\\\"\")(child(new))))|(tags:\"-5-10\")").outcome =
        .ok p := by
  intro p
  have hp : p.Writable { now := 0 } :=
    ⟨⟨⟨rfl, by decide⟩, Or.inr trivial⟩, by decide, by decide, by decide, by decide⟩
  have e : String.ofList p.written =
      "(!((\"an \\\"or\\\"\")(child(new))))|(tags:\"-5-10\")" := by
    rfl
  rw [← e]
  exact ⟨hp, compile_written _ p (Or.inr hp)⟩

end Query

end MapQuery
