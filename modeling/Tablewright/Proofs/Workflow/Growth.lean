/-
States only grow.

Every operation on a state leaves each entry at its place in the list, under its name and with the
stages it has completed, and puts new entries behind the old ones. `GrowsTo` says so of two states.
It is transitive, so an outcome, which is folded in by discoveries, definitions and stages one after
another, makes a state grow because each of the three operations does.

`Sound` is what makes a name a key: no name is tracked twice, and every tracked name is a canonical
one, so every spelling of a label leads to the entry of its entity.
-/
import Tablewright.Proofs.Naming.Canonical
import Tablewright.Proofs.Workflow

set_option autoImplicit false

namespace Tablewright

/-- What may become of an entry: the name stays, and so does every completed stage. -/
def Progress.Continues (p q : Progress) : Prop :=
  q.entity.name = p.entity.name ∧ ∀ s, p.has s = true → q.has s = true

theorem Progress.Continues.refl (p : Progress) : p.Continues p := ⟨rfl, fun _ hs => hs⟩

theorem Progress.Continues.trans {p q r : Progress} (h : p.Continues q) (h' : q.Continues r) :
    p.Continues r :=
  ⟨h'.1.trans h.1, fun s hs => h'.2 s (h.2 s hs)⟩

namespace WorkflowState

/-! ## Growth -/

/-- One state grows to another: every entry keeps its place, and behind the old entries come new
ones, under names that were not tracked. -/
structure GrowsTo (st st' : WorkflowState) : Prop where
  /-- Every entry goes on at its place. -/
  kept : ∀ (i : Nat) (p : Progress), st.entities[i]? = some p →
    ∃ q, st'.entities[i]? = some q ∧ p.Continues q
  /-- What comes behind the old entries was not tracked. -/
  new : ∀ (i : Nat) (q : Progress), st.entities.length ≤ i → st'.entities[i]? = some q →
    q.entity.name ∉ st.names

theorem GrowsTo.refl (st : WorkflowState) : st.GrowsTo st where
  kept _ p hp := ⟨p, hp, .refl p⟩
  new i q hi hq := by
    rw [List.getElem?_eq_none hi] at hq
    cases hq

/-- Names stay tracked. -/
theorem GrowsTo.mem_names {st st' : WorkflowState} (h : st.GrowsTo st') {n : Text}
    (hn : n ∈ st.names) : n ∈ st'.names := by
  obtain ⟨p, hp, rfl⟩ := List.mem_map.mp hn
  obtain ⟨i, hi⟩ := List.mem_iff_getElem?.mp hp
  obtain ⟨q, hq, hname, -⟩ := h.kept i p hi
  exact List.mem_map.mpr ⟨q, List.mem_of_getElem? hq, hname⟩

theorem GrowsTo.trans {st st₁ st' : WorkflowState} (h : st.GrowsTo st₁) (h' : st₁.GrowsTo st') :
    st.GrowsTo st' where
  kept i p hp := by
    obtain ⟨q, hq, hpq⟩ := h.kept i p hp
    obtain ⟨r, hr, hqr⟩ := h'.kept i q hq
    exact ⟨r, hr, hpq.trans hqr⟩
  new i r hi hr := by
    -- a new entry came with the first growth or with the second
    rcases hq : st₁.entities[i]? with _ | q
    · have hlen := List.getElem?_eq_none_iff.mp hq
      exact fun hn => h'.new i r hlen hr (h.mem_names hn)
    · obtain ⟨r', hr', hname, -⟩ := h'.kept i q hq
      obtain rfl : r' = r := Option.some.inj (hr'.symm.trans hr)
      rw [hname]
      exact h.new i q hi hq

/-- A state grows when entries are changed that keep their names and their stages. -/
theorem growsTo_update (st : WorkflowState) (n : Text) (f : Progress → Progress)
    (hf : ∀ p : Progress, p.entity.name = n → p.Continues (f p)) : st.GrowsTo (st.update n f) where
  kept i p hp := by
    refine ⟨if p.entity.name = n then f p else p, ?_, ?_⟩
    · rw [update, List.getElem?_map, hp, Option.map_some]
    · split
      case isTrue hn => exact hf p hn
      case isFalse => exact .refl p
  new i q hi hq := by
    rw [update, List.getElem?_map, List.getElem?_eq_none hi] at hq
    cases hq

/-- What discovering an entity adds, if anything. -/
theorem entities_discover (st : WorkflowState) (e : Entity) :
    (st.discover e).entities
      = st.entities ++ if e.name ∈ st.names then [] else [Progress.start e] := by
  by_cases h : st.contains e.name = true
  · rw [discover, if_pos h, if_pos ((contains_iff_mem_names st e.name).mp h), List.append_nil]
  · rw [discover, if_neg h, if_neg fun hn => h ((contains_iff_mem_names st e.name).mpr hn)]

/-- Discovering entities leaves the entries as they are and puts new ones behind them. -/
theorem entities_discoverAll (st : WorkflowState) (es : List Entity) :
    ∃ new, (st.discoverAll es).entities = st.entities ++ new := by
  induction es generalizing st with
  | nil => exact ⟨[], (List.append_nil _).symm⟩
  | cons e es ih =>
    obtain ⟨new, hnew⟩ := ih (st.discover e)
    rw [entities_discover, List.append_assoc] at hnew
    exact ⟨_, hnew⟩

/-- Entities under distinct names that are not tracked are all put behind the entries, in their
order. -/
theorem entities_discoverAll_of_new {st : WorkflowState} {es : List Entity}
    (hnodup : (es.map Entity.name).Nodup) (hnew : ∀ e ∈ es, e.name ∉ st.names) :
    (st.discoverAll es).entities = st.entities ++ es.map Progress.start := by
  induction es generalizing st with
  | nil => exact (List.append_nil _).symm
  | cons e es ih =>
    obtain ⟨he, hes⟩ := List.nodup_cons.mp hnodup
    have hentities : (st.discover e).entities = st.entities ++ [Progress.start e] := by
      rw [entities_discover, if_neg (hnew e List.mem_cons_self)]
    have hnext : ∀ d ∈ es, d.name ∉ (st.discover e).names := by
      intro d hd
      rw [names, hentities, List.map_append, List.mem_append, not_or]
      refine ⟨hnew d (List.mem_cons_of_mem e hd), fun hlast => ?_⟩
      have hname : d.name = e.name := List.mem_singleton.mp hlast
      exact he (hname ▸ List.mem_map_of_mem hd)
    calc ((st.discover e).discoverAll es).entities
        = (st.discover e).entities ++ es.map Progress.start := ih hes hnext
      _ = st.entities ++ (e :: es).map Progress.start := by rw [hentities, List.append_assoc]; rfl

theorem growsTo_discover (st : WorkflowState) (e : Entity) : st.GrowsTo (st.discover e) where
  kept i p hp := by
    obtain ⟨hi, -⟩ := List.getElem?_eq_some_iff.mp hp
    exact ⟨p, by rw [entities_discover, List.getElem?_append_left hi, hp], .refl p⟩
  new i q hi hq := by
    rw [entities_discover, List.getElem?_append_right hi] at hq
    have hmem := List.mem_of_getElem? hq
    split at hmem
    case isTrue => cases hmem
    case isFalse hn =>
      obtain rfl := List.mem_singleton.mp hmem
      exact hn

theorem growsTo_define (st : WorkflowState) (e : Entity) : st.GrowsTo (st.define e) := by
  rw [define]
  split
  case isTrue => exact growsTo_update st e.name _ fun _ hn => ⟨hn.symm, fun _ hs => hs⟩
  case isFalse => exact growsTo_discover st e

theorem growsTo_complete {st st' : WorkflowState} {n : Text} {s : Stage}
    (h : st.complete n s = .ok st') : st.GrowsTo st' := by
  rw [complete] at h
  split at h
  case isTrue =>
    cases h
    refine growsTo_update st n _ fun p _ => ⟨rfl, fun t ht => ?_⟩
    exact (p.has_complete_iff s t).mpr (.inl ht)
  case isFalse => cases h

/-- A state grows by steps that make it grow. -/
private theorem growsTo_foldl (f : WorkflowState → Entity → WorkflowState)
    (hf : ∀ (st : WorkflowState) (e : Entity), st.GrowsTo (f st e)) (es : List Entity)
    (st : WorkflowState) : st.GrowsTo (es.foldl f st) := by
  induction es generalizing st with
  | nil => exact .refl st
  | cons e es ih => exact (hf st e).trans (ih (f st e))

theorem growsTo_completeAll {st st' : WorkflowState} {cs : List (Text × Stage)}
    (h : st.completeAll cs = .ok st') : st.GrowsTo st' := by
  induction cs generalizing st with
  | nil =>
    cases h
    exact .refl _
  | cons c cs ih =>
    obtain ⟨n, s⟩ := c
    rw [completeAll] at h
    rcases hc : st.complete n s with r | st₁
    · rw [hc] at h
      cases h
    · rw [hc] at h
      exact (growsTo_complete hc).trans (ih h)

/-- Folding in an outcome makes a state grow. -/
theorem growsTo_apply {o : Outcome} {st st' : WorkflowState} (h : o.apply st = .ok st') :
    st.GrowsTo st' :=
  ((growsTo_foldl discover growsTo_discover o.discovered st).trans
    (growsTo_foldl define growsTo_define o.defined _)).trans (growsTo_completeAll h)

/-! ## Sound states -/

/-- The names of a state are keys: none is tracked twice, and each is a canonical name. -/
structure Sound (st : WorkflowState) : Prop where
  /-- No name is tracked twice. -/
  distinct : st.Distinct
  /-- Every tracked name is its own canonical name. -/
  canonical : ∀ n ∈ st.names, Naming.canonical n = n

theorem sound_empty : empty.Sound := ⟨distinct_empty, List.forall_mem_nil _⟩

/-- Discovering entities under canonical names keeps a state sound. -/
theorem Sound.discoverAll {st : WorkflowState} (h : st.Sound) {es : List Entity}
    (hes : ∀ e ∈ es, Naming.canonical e.name = e.name) : (st.discoverAll es).Sound := by
  refine ⟨h.distinct.discoverAll es, fun n hn => ?_⟩
  obtain ⟨_, -, hmem⟩ := names_discoverAll st es
  rcases (hmem n).mp hn with hold | ⟨e, he, rfl⟩
  · exact h.canonical n hold
  · exact hes e he

/-- Folding in an outcome keeps a state sound when what it discovers and defines goes by canonical
names. -/
theorem Sound.apply {st st' : WorkflowState} {o : Outcome} (h : st.Sound)
    (hdis : ∀ e ∈ o.discovered, Naming.canonical e.name = e.name)
    (hdef : ∀ e ∈ o.defined, Naming.canonical e.name = e.name) (ho : o.apply st = .ok st') :
    st'.Sound := by
  refine ⟨h.distinct.apply ho, fun n hn => ?_⟩
  obtain ⟨_, -, hmem⟩ := apply_names ho
  rcases (hmem n).mp hn with hold | ⟨e, he, rfl⟩ | ⟨e, he, rfl⟩
  · exact h.canonical n hold
  · exact hdis e he
  · exact hdef e he

end WorkflowState

end Tablewright
