import MapQuery.Pattern.Basic
import Mathlib.Tactic.Choose

/-!
# The outcomes of a pattern

An element of a pattern is handed what is to happen behind it. All the same, what it can do does not
depend on that: it has certain outcomes, in an order of preference, and what follows picks the first
with which it agrees. So what a pattern can match is settled before it is asked whether a match has
to end with the text.

* `Body.Ranked` -- outcomes in an order of preference, whatever follows;
* `ranked_greedyRounds`, `ranked_lazyRounds`, `ranked_repeatBody` -- repeats have some, by induction
  on the rounds;
* `ranked_runNode`, `ranked_runAll`, `ranked_runAny` -- every element has, by induction on it;
* `search_of_fullMatch` -- a pattern that matches a text as a whole matches somewhere in it.
-/

namespace MapQuery.Pattern

/-! ## 1. Outcomes in an order of preference -/

/-- **A body has outcomes at each spot, in an order of preference**: whatever follows, the answer is
    the first with which that agrees. -/
def Body.Ranked (b : Body) : Prop :=
  ∃ outcomes : Spot → List Spot, ∀ s k, b s k = (outcomes s).findSome? k

theorem findSome?_flatMap (l : List Spot) (f : Spot → List Spot) (k : Next) :
    (l.flatMap f).findSome? k = l.findSome? fun t => (f t).findSome? k := by
  induction l with
  | nil => rfl
  | cons t l ih =>
    rw [List.flatMap_cons, List.findSome?_append, List.findSome?_cons, ih]
    cases (f t).findSome? k <;> rfl

namespace Body.Ranked

variable {b b' : Body}

/-- What follows may agree with more: an outcome that was taken is still there. -/
theorem isSome_mono (h : b.Ranked) {k k' : Next} (hk : ∀ t, (k t).isSome → (k' t).isSome)
    {s : Spot} (hs : (b s k).isSome) : (b s k').isSome := by
  obtain ⟨outcomes, hb⟩ := h
  rw [hb, List.findSome?_isSome_iff] at hs ⊢
  obtain ⟨t, ht, hagrees⟩ := hs
  exact ⟨t, ht, hk t hagrees⟩

/-- Going on at the same spot. -/
theorem stay : Body.Ranked fun s k => k s :=
  ⟨fun s => [s], fun _ _ => List.findSome?_singleton.symm⟩

/-- No outcome at all. -/
theorem stuck : Body.Ranked fun _ _ => none := ⟨fun _ => [], fun _ _ => rfl⟩

/-- One of two, by a look at the spot. -/
theorem ite {c : Spot → Prop} [DecidablePred c] (h : b.Ranked) (h' : b'.Ranked) :
    Body.Ranked fun s k => if c s then b s k else b' s k := by
  obtain ⟨outcomes, hb⟩ := h
  obtain ⟨outcomes', hb'⟩ := h'
  refine ⟨fun s => if c s then outcomes s else outcomes' s, fun s k => ?_⟩
  by_cases hc : c s
  · simp only [if_pos hc, hb]
  · simp only [if_neg hc, hb']

/-- One after the other: of each outcome of the first all those of the second. -/
theorem andThen {next : Spot → Body} (h : b.Ranked) (h' : ∀ s, (next s).Ranked) :
    Body.Ranked fun s k => b s fun t => next s t k := by
  obtain ⟨outcomes, hb⟩ := h
  choose outcomes' hb' using h'
  refine ⟨fun s => (outcomes s).flatMap (outcomes' s), fun s k => ?_⟩
  dsimp only
  rw [findSome?_flatMap, hb]
  exact congrArg (fun k' => (outcomes s).findSome? k') (funext fun t => hb' s t k)

/-- The other one where what follows agrees with no outcome of the one. -/
theorem orElse (h : b.Ranked) (h' : b'.Ranked) :
    Body.Ranked fun s k => match b s k with
      | some t => some t
      | none => b' s k := by
  obtain ⟨outcomes, hb⟩ := h
  obtain ⟨outcomes', hb'⟩ := h'
  refine ⟨fun s => outcomes s ++ outcomes' s, fun s k => ?_⟩
  dsimp only
  rw [List.findSome?_append, hb, hb']
  cases (outcomes s).findSome? k <;> rfl

/-- From another spot. -/
theorem comap (h : b.Ranked) (f : Spot → Spot) : Body.Ranked fun s k => b (f s) k := by
  obtain ⟨outcomes, hb⟩ := h
  exact ⟨fun s => outcomes (f s), fun s k => hb (f s) k⟩

/-- A body that is chosen by a look at the spot. -/
theorem choose {bodies : Spot → Body} (h : ∀ s, (bodies s).Ranked) :
    Body.Ranked fun s k => bodies s s k := by
  choose outcomes hb using h
  exact ⟨fun s => outcomes s s, fun s k => hb s s k⟩

/-- Going on at another spot, or not at all. -/
theorem step (f : Spot → Option Spot) : Body.Ranked fun s k =>
    match f s with
    | some t => k t
    | none => none := by
  refine ⟨fun s => (f s).toList, fun s k => ?_⟩
  dsimp only
  cases f s with
  | some t => exact List.findSome?_singleton.symm
  | none => rfl

theorem congr (h : b.Ranked) (hb : ∀ s k, b' s k = b s k) : b'.Ranked := by
  obtain ⟨outcomes, hb'⟩ := h
  exact ⟨outcomes, fun s k => (hb s k).trans (hb' s k)⟩

end Body.Ranked

/-! ## 2. Repeats -/

section Repeats

variable {body : Body}

theorem ranked_rounds (h : body.Ranked) (n : Nat) : (rounds body n).Ranked := by
  induction n with
  | zero => exact .stay
  | succ n ih => exact h.andThen fun _ => ih

theorem ranked_greedyRounds (h : body.Ranked) (n : Nat) (left last : Option Nat) :
    (greedyRounds body n left last).Ranked := by
  induction n generalizing left last with
  | zero => exact .stay
  | succ n ih =>
    -- one more round first, and then no more
    have hmore : Body.Ranked fun s k =>
        match body s fun t => greedyRounds body n (oneLess left) (some s.pos) t k with
        | some t => some t
        | none => k s := (h.andThen fun s => ih (oneLess left) (some s.pos)).orElse .stay
    exact .ite .stay hmore

theorem ranked_lazyRounds (h : body.Ranked) (n : Nat) (left last : Option Nat) :
    (lazyRounds body n left last).Ranked := by
  induction n generalizing left last with
  | zero => exact .stay
  | succ n ih =>
    have hmore : Body.Ranked fun s k =>
        body s fun t => lazyRounds body n (oneLess left) (some s.pos) t k :=
      h.andThen fun s => ih (oneLess left) (some s.pos)
    exact Body.Ranked.stay.orElse (.ite .stuck hmore)

theorem ranked_repeatBody (h : body.Ranked) (size : Nat) (greed : Greed) (least : Nat)
    (most : Option Nat) : (repeatBody body size greed least most).Ranked := by
  cases greed with
  | greedy =>
    exact (ranked_rounds h least).andThen fun _ =>
      .choose fun t => ranked_greedyRounds h (size - t.pos + 2) _ none
  | lazy =>
    exact (ranked_rounds h least).andThen fun _ =>
      .choose fun t => ranked_lazyRounds h (size - t.pos + 2) _ none
  | possessive =>
    refine (Body.Ranked.step fun s => (firmRounds body least s).map fun t =>
      possessiveRounds body (size - t.pos + 2) (most.map (· - least)) t).congr fun s k => ?_
    unfold repeatBody
    cases firmRounds body least s <;> rfl

end Repeats

/-! ## 3. Elements -/

section Elements

variable (text : Array Char) {body : Body}

theorem ranked_runSingle (f : Flags) (t : Single) : (runSingle text f t).Ranked := by
  refine (Body.Ranked.step fun s => (text[s.pos]?).bind fun c =>
    if t.accepts f c then some { s with pos := s.pos + 1 } else none).congr fun s k => ?_
  unfold runSingle
  cases text[s.pos]? with
  | none => rfl
  | some c =>
    dsimp only [Option.bind_some]
    split <;> rfl

theorem ranked_runBackref (f : Flags) (group : Nat) : (runBackref text f group).Ranked := by
  refine (Body.Ranked.step fun s => (s.captured group).bind fun p =>
    if agreeAt f text (p.2 - p.1) p.1 s.pos then
      some { s with pos := s.pos + (p.2 - p.1) }
    else none).congr fun s k => ?_
  unfold runBackref
  cases s.captured group with
  | none => rfl
  | some p =>
    dsimp only [Option.bind_some]
    split <;> rfl

theorem ranked_runGroup (h : body.Ranked) (index : Option Nat) : (runGroup index body).Ranked := by
  cases index with
  | none => exact h
  | some i => exact (h.comap fun s => s.mark (2 * i - 2)).andThen fun _ => Body.Ranked.stay.comap _

theorem ranked_runAtomic (body : Body) : (runAtomic body).Ranked := .step fun s => body s some

theorem ranked_runLook (negated : Bool) (width : Nat) (body : Body) :
    (runLook negated width body).Ranked := by
  let outcome (s : Spot) :=
    if s.pos < width then none else body { s with pos := s.pos - width } some
  let seen (s : Spot) := (outcome s).map fun t => { t with pos := s.pos }
  let unseen (s : Spot) := (outcome s).elim (some s) fun _ => none
  refine (Body.Ranked.step fun s => bif negated then unseen s else seen s).congr fun s k => ?_
  unfold runLook
  dsimp only [unseen, seen, outcome]
  cases negated <;>
    cases (if s.pos < width then none else body { s with pos := s.pos - width } some) <;> rfl

mutual

/-- **Every element has outcomes that do not depend on what follows it.** -/
theorem ranked_runNode (n : Node) (f : Flags) : (runNode text n f).Ranked := by
  cases n with
  | single t => exact ranked_runSingle text f t
  | anchor a => exact .ite .stay .stuck
  | backref group width => exact ranked_runBackref text f group
  | group index added removed body =>
    exact ranked_runGroup (ranked_runAll body (f.inside added removed)) index
  | atomic body => exact ranked_runAtomic _
  | look behind negated body => exact ranked_runLook _ _ _
  | repeated greed least most body =>
    exact ranked_repeatBody (ranked_runAll body f) text.size greed least most
  | branch items => exact ranked_runAny items f
  | choose group yes no =>
    cases no with
    | none => exact .ite (ranked_runAll yes f) .stay
    | some no => exact .ite (ranked_runAll yes f) (ranked_runAll no f)

/-- So has every sequence. -/
theorem ranked_runAll (l : List Node) (f : Flags) : (runAll text l f).Ranked := by
  cases l with
  | nil => exact .stay
  | cons n r => exact (ranked_runNode n f).andThen fun _ => ranked_runAll r f

/-- So have alternatives. -/
theorem ranked_runAny (l : List (List Node)) (f : Flags) : (runAny text l f).Ranked := by
  cases l with
  | nil => exact .stuck
  | cons a r => exact (ranked_runAll a f).orElse (ranked_runAny r f)

end

end Elements

/-! ## 4. As a whole and somewhere -/

/-- The first place is one of the places that are tried. -/
theorem matchesFrom_first {p : Pattern} {text : Array Char} {pos : Nat}
    (h : (p.outcomeAt text pos some).isSome) (n : Nat) : p.matchesFrom text n pos = true := by
  cases n with
  | zero => exact h
  | succ n => exact Bool.or_eq_true_iff.mpr (.inl h)

/-- **A pattern that matches a text as a whole matches somewhere in it**: of the outcomes at the
    front, the one that ends with the text is one. -/
theorem search_of_fullMatch {p : Pattern} {text : String} (h : p.fullMatch text = true) :
    p.search text = true := by
  refine matchesFrom_first ((ranked_runAll _ p.body p.flags).isSome_mono (fun t ht => ?_) h) _
  exact Option.isSome_some

end MapQuery.Pattern
