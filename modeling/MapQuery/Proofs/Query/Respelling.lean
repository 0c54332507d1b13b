import MapQuery.Proofs.Query.Spelling
import MapQuery.Proofs.Query.Stream

/-!
# Reading what was spelled

Tokens that are spelled one after the other, with any blanks around them, are read again.

* `Token.spelling` -- a key between quotation marks, any other token as its sign;
* `Spells` -- a text spells these tokens, blanks before, between and behind them;
* `front_spelling` -- whatever stands behind a spelling, it is cut off as its token;
* `lexed_of_spells` -- the tokens of such a text are those that it spells;
* `nexts_of_spells` -- they are what is read.
-/

namespace MapQuery.Query

open MapQuery.Text

/-! ## 1. Spelling -/

/-- The spelling of a token, which the end has none of. -/
def Token.spelling : Token → List Char
  | .key text => quote text
  | t => t.sign?.toList

/-- **A text spells these tokens**, with blanks before, between and behind them, or none. -/
inductive Spells : List Token → List Char → Prop where
  | nil {gap : List Char} (hgap : ∀ c ∈ gap, isBlank c = true) : Spells [] gap
  | cons {gap w : List Char} {t : Token} {l : List Token} (hgap : ∀ c ∈ gap, isBlank c = true)
    (ht : t ≠ .endOfQuery) (h : Spells l w) : Spells (t :: l) (gap ++ (t.spelling ++ w))

/-! ## 2. Reading -/

theorem front_gap {gap : List Char} (hgap : ∀ c ∈ gap, isBlank c = true) (s : List Char) :
    front (gap ++ s) = front s := by
  unfold front trimLeft
  rw [List.dropWhile_append_of_pos hgap]

/-- **A spelling is cut off as its token**, whatever stands behind it. -/
theorem front_spelling {t : Token} (ht : t ≠ .endOfQuery) (r : List Char) :
    ∃ x : Lexeme, front (t.spelling ++ r) = .lexeme x r ∧ x.token = .ok t := by
  cases t with
  | key text => exact ⟨⟨.quoted, quote text⟩, front_quote text r, quotedToken_quote text⟩
  | endOfQuery => exact absurd rfl ht
  | _ => exact ⟨_, front_cons (by decide) r, rfl⟩

/-- **The tokens of a text are those that it spells.** -/
theorem lexed_of_spells {l : List Token} {w : List Char} (h : Spells l w) (n : Nat) :
    QueryText.lexed ⟨n, w⟩ = ⟨l, none⟩ := by
  induction h with
  | nil hgap =>
    have hfront := front_gap hgap []
    rw [List.append_nil] at hfront
    unfold QueryText.lexed
    rw [lexemes_of_front_nothing (hfront.trans rfl)]
    rfl
  | cons hgap ht _ ih =>
    obtain ⟨x, hx, htoken⟩ := front_spelling ht _
    rw [QueryText.lexed_of_front ((front_gap hgap _).trans hx) htoken, ih]

/-- **What was spelled is read again**, and then the end for ever: the terminals cut the whole text
    into lexemes for these tokens. -/
theorem nexts_of_spells {l : List Token} {query : String} (h : Spells l query.toList) :
    (lexemes query.toList).1.map Lexeme.token = l.map .ok ∧ (lexemes query.toList).2 = [] ∧
      ∀ n, Cursor.nexts (l.length + n) { source := QueryText.ofString query } =
        l.map .ok ++ List.replicate n (.ok .endOfQuery) := by
  have hlexed : (QueryText.ofString query).lexed = ⟨l, none⟩ := lexed_of_spells h _
  refine ⟨?_, ?_, fun n => ?_⟩
  · have htokens := (QueryText.ofString query).token_lexemes
    rw [hlexed] at htokens
    exact htokens
  · have hfault : (QueryText.ofString query).faultAt (lexemes query.toList).2 = none :=
      congrArg TokenList.fault hlexed
    exact QueryText.faultAt_eq_none hfault
  · have hreads := (reads_lexed query).2 n
    rw [hlexed] at hreads
    simpa using hreads

/-- Two keys that touch signs, the one with a quotation mark in it, the other one a word that is an
    operator where it is bare. -/
theorem nexts_of_spells_touching :
    Cursor.nexts 5 { source := QueryText.ofString " \"a\\\"b\"!\n\"or\"|" } =
      [.ok (.key "a\"b"), .ok .not, .ok (.key "or"), .ok .or, .ok .endOfQuery] := by
  have htext : " \"a\\\"b\"!\n\"or\"|".toList =
      [' '] ++ ((Token.key "a\"b").spelling ++ ([] ++ (Token.not.spelling ++
        (['\n'] ++ ((Token.key "or").spelling ++ ([] ++ (Token.or.spelling ++ []))))))) := rfl
  have hspells : Spells [.key "a\"b", .not, .key "or", .or] " \"a\\\"b\"!\n\"or\"|".toList := by
    rw [htext]
    exact .cons (List.forall_mem_singleton.mpr rfl) (by decide) <|
      .cons (List.forall_mem_nil _) (by decide) <|
      .cons (List.forall_mem_singleton.mpr rfl) (by decide) <|
      .cons (List.forall_mem_nil _) (by decide) <| .nil (List.forall_mem_nil _)
  exact (nexts_of_spells hspells).2.2 1

end MapQuery.Query
