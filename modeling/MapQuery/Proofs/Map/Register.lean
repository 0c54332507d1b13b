import MapQuery.Map.Document
import Mathlib.Data.List.Induction
import Mathlib.Data.List.Nodup
import Mathlib.Logic.Function.Basic

/-!
# Drafts as registers

A draft holds its objects in an array, and where each key is found in a list. Both stand for a list
of keys without repeats and for one object under each key.

* `Draft.Shows` -- the keys of a draft in order, and the object under each;
* `Shows.put`, `Shows.resolve`, `Shows.reshape` -- what each change of a draft makes of them: a new
  key comes last, and no other change moves a key;
* `eraseDups_append_singleton` -- what comes one by one stands in the order in which it came first.
-/

namespace MapQuery

variable {ks : List Key} {k : Key}

/-! ## 1. Keys in the order of their first mention -/

/-- A key put behind a list of keys, unless it is there. -/
def addKey (ks : List Key) (k : Key) : List Key :=
  if k ∈ ks then ks else ks ++ [k]

theorem addKey_of_mem (h : k ∈ ks) : addKey ks k = ks := if_pos h

theorem addKey_of_not_mem (h : k ∉ ks) : addKey ks k = ks ++ [k] := if_neg h

theorem mem_addKey {k' : Key} : k' ∈ addKey ks k ↔ k' ∈ ks ∨ k' = k := by
  by_cases h : k ∈ ks
  · rw [addKey_of_mem h]
    constructor
    · exact Or.inl
    · rintro (h' | rfl)
      · exact h'
      · exact h
  · rw [addKey_of_not_mem h, List.mem_append, List.mem_singleton]

theorem isPrefix_addKey (ks : List Key) (k : Key) : ks <+: addKey ks k := by
  by_cases h : k ∈ ks
  · exact (addKey_of_mem h).symm ▸ List.prefix_rfl
  · rw [addKey_of_not_mem h]
    exact List.prefix_append ks [k]

theorem nodup_addKey (h : ks.Nodup) : (addKey ks k).Nodup := by
  by_cases hk : k ∈ ks
  · rwa [addKey_of_mem hk]
  · rw [addKey_of_not_mem hk]
    exact h.append (List.nodup_singleton k) (List.disjoint_singleton.mpr hk)

/-- One more member, and the first occurrences stand as before, with the member behind them if it
    is new. -/
theorem eraseDups_append_singleton {α : Type} [DecidableEq α] (l : List α) (a : α) :
    (l ++ [a]).eraseDups = if a ∈ l then l.eraseDups else l.eraseDups ++ [a] := by
  rw [List.eraseDups_append]
  by_cases h : a ∈ l
  · have hnone : [a].removeAll l = [] := by simp [List.removeAll, h]
    rw [hnone, if_pos h]
    exact List.append_nil _
  · have hone : [a].removeAll l = [a] := by simp [List.removeAll, h]
    rw [hone, if_neg h]
    rfl

theorem nodup_eraseDups {α : Type} [DecidableEq α] (l : List α) : l.eraseDups.Nodup := by
  induction l using List.reverseRecOn with
  | nil => exact List.nodup_nil
  | append_singleton l a ih =>
    rw [eraseDups_append_singleton]
    by_cases h : a ∈ l
    · rwa [if_pos h]
    · rw [if_neg h]
      exact ih.append (List.nodup_singleton a)
        (List.disjoint_singleton.mpr fun hm => h (List.mem_eraseDups.mp hm))

theorem eraseDups_of_nodup {α : Type} [DecidableEq α] {l : List α} (h : l.Nodup) :
    l.eraseDups = l := by
  induction l using List.reverseRecOn with
  | nil => rfl
  | append_singleton l a ih =>
    rw [List.nodup_append] at h
    have ha : a ∉ l := fun hm => h.2.2 a hm a List.mem_cons_self rfl
    rw [eraseDups_append_singleton, if_neg ha, ih h.1]

theorem eraseDups_concat (ks : List Key) (k : Key) :
    (ks ++ [k]).eraseDups = addKey ks.eraseDups k := by
  rw [eraseDups_append_singleton, addKey]
  simp only [List.mem_eraseDups]

/-- Keys that come one by one, from the first on. -/
theorem foldl_addKey (ks more : List Key) :
    more.foldl addKey ks.eraseDups = (ks ++ more).eraseDups := by
  induction more generalizing ks with
  | nil => rw [List.foldl_nil, List.append_nil]
  | cons k r ih =>
    rw [List.foldl_cons, ← eraseDups_concat, ih, List.append_assoc, List.singleton_append]

theorem isPrefix_eraseDups (ks more : List Key) : ks.eraseDups <+: (ks ++ more).eraseDups := by
  rw [List.eraseDups_append]
  exact List.prefix_append _ _

/-! ## 2. Places -/

/-- A key that is there keeps its place when others come behind it. -/
theorem idxOf_of_isPrefix {ks' : List Key} (hp : ks <+: ks') (hk : k ∈ ks) :
    ks'.idxOf k = ks.idxOf k := by
  obtain ⟨more, rfl⟩ := hp
  exact List.idxOf_append_of_mem hk

/-- Entries that list keys with their places are found by the place of the key. -/
theorem findEntry_zipIdx (ks : List Key) (k : Key) (n : Nat) :
    DataSet.findEntry (ks.zipIdx n) k = if k ∈ ks then some (n + ks.idxOf k) else none := by
  induction ks generalizing n with
  | nil => rfl
  | cons k' r ih =>
    unfold DataSet.findEntry at ih ⊢
    rw [List.zipIdx_cons, List.find?_cons]
    by_cases h : k' = k
    · subst h
      simp
    · have h' : ¬ k = k' := fun e => h e.symm
      simp only [beq_eq_false_iff_ne.mpr h, ih, List.mem_cons, h', false_or,
        List.idxOf_cons_ne r h]
      split
      · rw [Nat.succ_eq_add_one]
        congr 1
        omega
      · rfl

/-- The object at the place of a key changed. -/
theorem map_modify_idxOf (h : ks.Nodup) (hk : k ∈ ks) (f : Key → Primitive)
    (change : Primitive → Primitive) :
    (ks.map f).modify (ks.idxOf k) change = ks.map (Function.update f k (change (f k))) := by
  induction ks with
  | nil => cases hk
  | cons k' r ih =>
    obtain ⟨hk', hr⟩ := List.nodup_cons.mp h
    by_cases e : k' = k
    · subst e
      have hsame : r.map (Function.update f k' (change (f k'))) = r.map f :=
        List.map_congr_left fun _ ha => Function.update_of_ne (ne_of_mem_of_not_mem ha hk') _ _
      rw [List.idxOf_cons_self, List.map_cons, List.map_cons, List.modify_zero_cons, hsame,
        Function.update_self]
    · rw [List.idxOf_cons_ne r e, List.map_cons, List.map_cons, List.modify_succ_cons,
        ih hr ((List.mem_cons.mp hk).resolve_left fun e' => e e'.symm), Function.update_of_ne e]

/-! ## 3. Drafts -/

namespace Document.Draft

/-- A draft shows these keys in this order, and these objects under them. Where it has no key, the
    object that would be made for it is meant. -/
structure Shows (d : Draft) (ks : List Key) (f : Key → Primitive) : Prop where
  nodup : ks.Nodup
  entries : d.entries = ks.zipIdx
  objects : d.graph.objects.toList = ks.map f
  key : ∀ k, (f k).key = k
  fresh : ∀ k, k ∉ ks → f k = Primitive.placeholder k

/-- Placeholders are known by the key they are made for. -/
theorem key_placeholder (k : Key) : (Primitive.placeholder k).key = k := by
  show (⟨(Shape.blank k.kind).kind, k.id⟩ : Key) = k
  rw [Shape.kind_blank]

/-- A draft that is empty shows no key. -/
theorem shows_empty : ({} : Draft).Shows [] Primitive.placeholder where
  nodup := List.nodup_nil
  entries := rfl
  objects := rfl
  key := key_placeholder
  fresh := fun _ _ => rfl

namespace Shows

variable {d : Draft} {f : Key → Primitive} {p : Primitive}

/-- A key is found by its place. -/
theorem findEntry (hd : d.Shows ks f) (k : Key) :
    DataSet.findEntry d.entries k = if k ∈ ks then some (ks.idxOf k) else none := by
  rw [hd.entries, findEntry_zipIdx, Nat.zero_add]

theorem size (hd : d.Shows ks f) : d.graph.objects.size = ks.length := by
  rw [← Array.length_toList, hd.objects, List.length_map]

/-- The objects stand at the places of their keys. -/
theorem get? (hd : d.Shows ks f) (h : Handle) : d.graph.get? h = ks[h]?.map f := by
  unfold Graph.get?
  rw [← Array.getElem?_toList, hd.objects, List.getElem?_map]

/-- **A new object comes last.** -/
theorem push (hd : d.Shows ks f) (hp : p.key ∉ ks) :
    Draft.Shows ⟨(d.graph.add p).1, d.entries ++ [(p.key, (d.graph.add p).2)]⟩ (ks ++ [p.key])
      (Function.update f p.key p) where
  nodup := addKey_of_not_mem hp ▸ nodup_addKey hd.nodup
  entries := by
    show d.entries ++ [(p.key, d.graph.objects.size)] = _
    rw [hd.entries, hd.size, List.zipIdx_append, Nat.zero_add]
    rfl
  objects := by
    have hsame : ks.map (Function.update f p.key p) = ks.map f :=
      List.map_congr_left fun _ ha => Function.update_of_ne (ne_of_mem_of_not_mem ha hp) _ _
    show (d.graph.objects.push p).toList = _
    rw [Array.toList_push, hd.objects, List.map_append, hsame, List.map_singleton,
      Function.update_self]
  key := fun k => by
    by_cases h : k = p.key
    · rw [h, Function.update_self]
    · rw [Function.update_of_ne h, hd.key]
  fresh := fun k hk => by
    rw [List.mem_append, List.mem_singleton, not_or] at hk
    rw [Function.update_of_ne hk.2, hd.fresh k hk.1]

/-- **An object that is changed keeps its place**, if it keeps its key. -/
theorem change (hd : d.Shows ks f) (hk : k ∈ ks) {g : Primitive → Primitive}
    (hg : (g (f k)).key = k) :
    Draft.Shows { d with graph := d.graph.update (ks.idxOf k) g } ks
      (Function.update f k (g (f k))) where
  nodup := hd.nodup
  entries := hd.entries
  objects := by
    show (d.graph.objects.modify (ks.idxOf k) g).toList = _
    rw [Array.toList_modify, hd.objects, map_modify_idxOf hd.nodup hk]
  key := fun k' => by
    by_cases h : k' = k
    · rw [h, Function.update_self, hg]
    · rw [Function.update_of_ne h, hd.key]
  fresh := fun k' hk' => by
    rw [Function.update_of_ne (ne_of_mem_of_not_mem hk hk').symm, hd.fresh k' hk']

/-- An object that is put stands under its key, and nothing else changes. -/
theorem put (hd : d.Shows ks f) (p : Primitive) :
    (d.put p).Shows (addKey ks p.key) (Function.update f p.key p) := by
  unfold Draft.put
  rw [hd.findEntry]
  by_cases hp : p.key ∈ ks
  · rw [if_pos hp, addKey_of_mem hp]
    exact hd.change hp (g := fun _ => p) rfl
  · rw [if_neg hp, addKey_of_not_mem hp]
    exact hd.push hp

/-- A key that is resolved is one of the keys, and its place is given; no object changes. -/
theorem resolve (hd : d.Shows ks f) (k : Key) :
    (d.resolve k).2.Shows (addKey ks k) f ∧ (d.resolve k).1 = (addKey ks k).idxOf k := by
  unfold Draft.resolve
  rw [hd.findEntry]
  by_cases hk : k ∈ ks
  · rw [if_pos hk, addKey_of_mem hk]
    exact ⟨hd, rfl⟩
  · rw [if_neg hk, addKey_of_not_mem hk]
    have hkey := key_placeholder k
    have hpush := hd.push (p := Primitive.placeholder k) (hkey.symm ▸ hk)
    rw [hkey, ← hd.fresh k hk, Function.update_eq_self] at hpush
    refine ⟨?_, ?_⟩
    · rw [hd.fresh k hk] at hpush
      exact hpush
    · show d.graph.objects.size = _
      rw [hd.size, List.idxOf_append_of_notMem hk, List.idxOf_cons_self]
      rfl

/-- An object whose shape is changed, to one of the same kind, stands where it stood. -/
theorem reshape (hd : d.Shows ks f) (hk : k ∈ ks) {shape : Shape} (hs : shape.kind = k.kind) :
    (d.reshape k shape).Shows ks (Function.update f k { f k with shape := shape }) := by
  unfold Draft.reshape
  rw [hd.findEntry, if_pos hk]
  refine hd.change hk (g := fun p => { p with shape := shape }) ?_
  have hid : (f k).id = k.id := congrArg Key.id (hd.key k)
  show (⟨shape.kind, (f k).id⟩ : Key) = k
  rw [hs, hid]

end Shows

end Document.Draft

end MapQuery
