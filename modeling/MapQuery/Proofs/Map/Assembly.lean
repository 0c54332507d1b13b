import MapQuery.Proofs.Map.Element
import MapQuery.Proofs.Map.Register

/-!
# What the elements of a document add up to

The objects that a document describes, given directly by its elements: which keys there are, in
which order, and what stands under each. The draft that loading builds step by step shows just that,
though it puts objects over each other, and links elements that were replaced before.

* `keysOf` -- the keys of the elements and of what they mention;
* `objectOf` -- the object under a key: that of the last element with the key, linked to what that
  element mentions; a placeholder if no element has it;
* `shows_gathered`, `shows_attached` -- what a draft shows after each element of either reading;
* `shows_draftOf` -- what it shows in the end.
-/

namespace MapQuery

/-! ## 1. Linked objects -/

/-- A shape of the same kind with these members: their targets are the nodes of a way. -/
def Shape.withMembers : Shape → List Member → Shape
  | .node lat lon, _ => .node lat lon
  | .way _, members => .way (members.map Member.target)
  | .relation _, members => .relation members

/-- The members that were there before leave no trace. -/
theorem Shape.withMembers_withMembers (s : Shape) (members members' : List Member) :
    (s.withMembers members').withMembers members = s.withMembers members := by
  cases s <;> rfl

namespace Document

/-- What is mentioned, as members at places. -/
def membersAt (place : Key → Handle) (ms : List Mention) : List Member :=
  ms.map fun m => ⟨m.role, place m.key⟩

/-- An object linked to what it mentions. -/
def linked (place : Key → Handle) (p : Primitive) (ms : List Mention) : Primitive :=
  { p with shape := p.shape.withMembers (membersAt place ms) }

theorem linked_linked (place : Key → Handle) (p : Primitive) (ms ms' : List Mention) :
    linked place (linked place p ms') ms = linked place p ms := by
  unfold linked
  simp only [Shape.withMembers_withMembers]

theorem membersAt_congr {place place' : Key → Handle} {ms : List Mention}
    (h : ∀ m ∈ ms, place m.key = place' m.key) : membersAt place ms = membersAt place' ms :=
  List.map_congr_left fun m hm => by rw [h m hm]

/-! ## 2. Keys and objects -/

/-- The keys of the elements and of what they mention, by first occurrence. -/
def keysOf (es : List Element) : List Key :=
  (es.map Element.key ++ es.flatMap Element.targets).eraseDups

/-- The last element with a key. -/
def lastOf (es : List Element) (k : Key) : Option Element :=
  es.reverse.find? fun e => e.key == k

/-- The object under a key before anything is linked. -/
def ownOf (es : List Element) (k : Key) : Primitive :=
  match lastOf es k with
  | some e => e.own
  | none => Primitive.placeholder k

/-- The object under a key, linked to what the last element with the key mentions. -/
def objectOf (es : List Element) (k : Key) : Primitive :=
  match lastOf es k with
  | some e => linked (keysOf es).idxOf e.own e.mentions
  | none => Primitive.placeholder k

/-- One more element is the last one with its key. -/
theorem lastOf_concat (es : List Element) (e : Element) (k : Key) :
    lastOf (es ++ [e]) k = if e.key = k then some e else lastOf es k := by
  unfold lastOf
  rw [List.reverse_append, List.reverse_singleton, List.singleton_append, List.find?_cons]
  by_cases h : e.key = k
  · rw [if_pos h, beq_iff_eq.mpr h]
  · rw [if_neg h, beq_eq_false_iff_ne.mpr h]

/-- **The last element with a key**, as it stands in the list. -/
theorem lastOf_eq_some_iff {es : List Element} {e : Element} {k : Key} :
    lastOf es k = some e ↔
      e.key = k ∧ ∃ before after, es = before ++ e :: after ∧ ∀ e' ∈ after, e'.key ≠ k := by
  unfold lastOf
  rw [List.find?_eq_some_iff_append]
  simp only [beq_iff_eq, Bool.not_eq_true', beq_eq_false_iff_ne]
  refine and_congr_right fun _ => ?_
  constructor
  · rintro ⟨after, before, h, hafter⟩
    refine ⟨before.reverse, after.reverse, ?_, fun e' he' => hafter e' (List.mem_reverse.mp he')⟩
    rw [← List.reverse_reverse es, h]
    simp
  · rintro ⟨before, after, rfl, hafter⟩
    exact ⟨after.reverse, before.reverse, by simp,
      fun e' he' => hafter e' (List.mem_reverse.mp he')⟩

theorem lastOf_eq_none_iff {es : List Element} {k : Key} :
    lastOf es k = none ↔ k ∉ es.map Element.key := by
  unfold lastOf
  simp

/-! ## 3. The first reading -/

theorem ownOf_concat (es : List Element) (e : Element) :
    ownOf (es ++ [e]) = Function.update (ownOf es) e.key e.own := by
  funext k
  by_cases h : e.key = k
  · subst h
    rw [Function.update_self]
    unfold ownOf
    rw [lastOf_concat, if_pos rfl]
  · rw [Function.update_of_ne (fun e' => h e'.symm)]
    unfold ownOf
    rw [lastOf_concat, if_neg h]

/-- **After the first reading each key shows the object of the last element that has it.** -/
theorem shows_gathered (es : List Element) :
    (({} : Draft).putAll (es.map Element.own)).Shows (es.map Element.key).eraseDups
      (ownOf es) := by
  induction es using List.reverseRecOn with
  | nil => exact Draft.shows_empty
  | append_singleton es e ih =>
    have hput := ih.put e.own
    rw [← eraseDups_concat] at hput
    rw [ownOf_concat, List.map_append, List.map_append]
    unfold Draft.putAll at hput ⊢
    rw [List.foldl_append]
    exact hput

/-! ## 4. The second reading -/

theorem isPrefix_foldl_addKey (ks more : List Key) : ks <+: more.foldl addKey ks := by
  induction more generalizing ks with
  | nil => exact List.prefix_rfl
  | cons k r ih => exact (isPrefix_addKey ks k).trans (ih (addKey ks k))

theorem mem_foldl_addKey_of_mem {ks more : List Key} {k : Key} (h : k ∈ more) :
    k ∈ more.foldl addKey ks := by
  induction more generalizing ks with
  | nil => cases h
  | cons k' r ih =>
    rcases List.mem_cons.mp h with rfl | h
    · exact (isPrefix_foldl_addKey _ r).subset (mem_addKey.mpr (Or.inr rfl))
    · exact ih h

section Attach

variable {d : Draft} {ks : List Key} {f : Key → Primitive}

/-- **What is mentioned is found at the places of its keys**, and new keys come last. -/
theorem shows_resolveAll (hd : d.Shows ks f) (ms : List Mention) :
    (d.resolveAll ms).2.Shows ((ms.map Mention.key).foldl addKey ks) f ∧
      (d.resolveAll ms).1 = membersAt ((ms.map Mention.key).foldl addKey ks).idxOf ms := by
  induction ms generalizing d ks with
  | nil => exact ⟨hd, rfl⟩
  | cons m r ih =>
    obtain ⟨hshows, hplace⟩ := hd.resolve m.key
    obtain ⟨hrest, hmembers⟩ := ih hshows
    have hfinal := idxOf_of_isPrefix (isPrefix_foldl_addKey (addKey ks m.key) (r.map Mention.key))
      (mem_addKey.mpr (Or.inr rfl))
    refine ⟨hrest, ?_⟩
    show (⟨m.role, (d.resolve m.key).1⟩ : Member) :: ((d.resolve m.key).2.resolveAll r).1 = _
    rw [hmembers, hplace, ← hfinal]
    rfl

/-- **Attaching links one object and moves none.** -/
theorem shows_attach (hd : d.Shows ks f) {owner : Key} (ho : owner ∈ ks) (ms : List Mention)
    {K : List Key} (hK : (ms.map Mention.key).foldl addKey ks <+: K) :
    (d.attach owner ms).Shows ((ms.map Mention.key).foldl addKey ks)
      (Function.update f owner (linked K.idxOf (f owner) ms)) := by
  obtain ⟨hshows, hmembers⟩ := shows_resolveAll hd ms
  have hplaces : (d.resolveAll ms).1 = membersAt K.idxOf ms := by
    rw [hmembers]
    refine membersAt_congr fun m hm => (idxOf_of_isPrefix hK ?_).symm
    exact mem_foldl_addKey_of_mem (List.mem_map_of_mem hm)
  have ho' : owner ∈ (ms.map Mention.key).foldl addKey ks :=
    (isPrefix_foldl_addKey ks _).subset ho
  have hkind : (f owner).shape.kind = owner.kind := congrArg Key.kind (hd.key owner)
  unfold Draft.attach
  simp only
  rw [hplaces]
  cases hs : (f owner).shape with
  | node lat lon =>
    rw [hs] at hkind
    rw [← hkind]
    have hsame : linked K.idxOf (f owner) ms = f owner := by
      unfold linked
      rw [hs, Shape.withMembers, ← hs]
    rw [hsame, Function.update_eq_self]
    exact hshows
  | way nodes =>
    rw [hs] at hkind
    rw [← hkind]
    have hlinked : linked K.idxOf (f owner) ms =
        { f owner with shape := .way ((membersAt K.idxOf ms).map Member.target) } := by
      unfold linked
      rw [hs, Shape.withMembers]
    rw [hlinked]
    exact hshows.reshape ho' hkind
  | relation members =>
    rw [hs] at hkind
    rw [← hkind]
    have hlinked : linked K.idxOf (f owner) ms =
        { f owner with shape := .relation (membersAt K.idxOf ms) } := by
      unfold linked
      rw [hs, Shape.withMembers]
    rw [hlinked]
    exact hshows.reshape ho' hkind

end Attach

/-- The object under a key when some of the elements are linked. -/
def partlyLinked (es done : List Element) (k : Key) : Primitive :=
  match lastOf done k with
  | some e => linked (keysOf es).idxOf (ownOf es k) e.mentions
  | none => ownOf es k

theorem partlyLinked_concat (es done : List Element) (e : Element) :
    partlyLinked es (done ++ [e]) = Function.update (partlyLinked es done) e.key
      (linked (keysOf es).idxOf (partlyLinked es done e.key) e.mentions) := by
  funext k
  by_cases h : e.key = k
  · subst h
    rw [Function.update_self]
    unfold partlyLinked
    rw [lastOf_concat, if_pos rfl]
    cases lastOf done e.key with
    | none => rfl
    | some e' => exact (linked_linked _ _ _ _).symm
  · rw [Function.update_of_ne (fun e' => h e'.symm)]
    unfold partlyLinked
    rw [lastOf_concat, if_neg h]

/-- **After each element of the second reading** the keys are those of all elements and of what was
    mentioned so far, and the objects are linked by the last of the elements so far. -/
theorem shows_attached (es done rest : List Element) (hes : es = done ++ rest) :
    ((({} : Draft).putAll (es.map Element.own)).attachAll done).Shows
      (es.map Element.key ++ done.flatMap Element.targets).eraseDups (partlyLinked es done) := by
  induction done using List.reverseRecOn generalizing rest with
  | nil =>
    rw [List.flatMap_nil, List.append_nil]
    exact shows_gathered es
  | append_singleton done e ih =>
    have hdone := ih (e :: rest) (by rw [hes, List.append_assoc, List.singleton_append])
    have hmem : e.key ∈ (es.map Element.key ++ done.flatMap Element.targets).eraseDups := by
      rw [List.mem_eraseDups, hes]
      simp
    have hkeys : (e.mentions.map Mention.key).foldl addKey
        (es.map Element.key ++ done.flatMap Element.targets).eraseDups =
          (es.map Element.key ++ (done ++ [e]).flatMap Element.targets).eraseDups := by
      rw [foldl_addKey, List.flatMap_append, List.append_assoc, List.flatMap_singleton]
      rfl
    have hprefix : (es.map Element.key ++ (done ++ [e]).flatMap Element.targets).eraseDups <+:
        keysOf es := by
      have hall : keysOf es = (es.map Element.key ++ (done ++ [e]).flatMap Element.targets ++
          rest.flatMap Element.targets).eraseDups := by
        unfold keysOf
        rw [List.append_assoc, ← List.flatMap_append, ← hes]
      rw [hall]
      exact isPrefix_eraseDups _ _
    have hstep := shows_attach hdone hmem e.mentions (hkeys.symm ▸ hprefix)
    rw [hkeys, ← partlyLinked_concat] at hstep
    unfold Draft.attachAll at hstep ⊢
    rw [List.foldl_append]
    exact hstep

/-- **In the end the draft shows what the elements add up to.** -/
theorem shows_draftOf (es : List Element) : (draftOf es).Shows (keysOf es) (objectOf es) := by
  have hall := shows_attached es es [] (List.append_nil es).symm
  have hobject : partlyLinked es es = objectOf es := by
    funext k
    unfold partlyLinked objectOf ownOf
    cases lastOf es k <;> rfl
  rw [hobject] at hall
  exact hall

end Document

end MapQuery
