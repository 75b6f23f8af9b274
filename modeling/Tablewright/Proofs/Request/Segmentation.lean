/-
What is found in a request.

A template matches a request if one of its phrases occurs in the normal form of the request
(`Template.Matches`). What is found is then a matter of the matching templates alone: the entities of
the matching rules, repeated names left out (`entities_of_rule`), or the entity of the first matching
fallback where no rule matches (`entities_of_no_rule`). The rules are gone through with the names seen
so far; `contributions_eq` says what that comes to for any names to start with, and everything else is
about lists of entities.
-/
import Tablewright.Proofs.Request.Template
import Tablewright.Proofs.Workflow.Growth
import Tablewright.Request.Segmentation

set_option autoImplicit false

namespace Tablewright

namespace Template

/-! ## Matching -/

/-- One of the phrases of a template occurs in a request, as compared in normal form. -/
def Matches (t : Template) (request : Text) : Prop :=
  ∃ phrase ∈ t.triggers, phrase <:+: Request.normal request

instance (t : Template) (request : Text) : Decidable (t.Matches request) :=
  inferInstanceAs (Decidable (∃ phrase ∈ t.triggers, phrase <:+: Request.normal request))

theorem applies_iff_matches {t : Template} {request : Text} :
    t.applies (Request.normal request) = true ↔ t.Matches request := by
  simp only [applies, Matches, List.any_eq_true, Text.includes_iff]

/-- A template that matches one of two requests matches both of them, one behind the other. -/
theorem matches_append {t : Template} {p s : Text} (h : t.Matches p ∨ t.Matches s) :
    t.Matches (p ++ " " ++ s) := by
  rcases h with ⟨phrase, hphrase, hp⟩ | ⟨phrase, hphrase, hs⟩
  · exact ⟨phrase, hphrase, Request.infix_normal_append (.inl hp)⟩
  · exact ⟨phrase, hphrase, Request.infix_normal_append (.inr hs)⟩

/-- A request of nothing but blanks is matched by an empty phrase, and by nothing else. -/
theorem matches_iff_of_blank {t : Template} {request : Text} (h : Text.isBlank request = true) :
    t.Matches request ↔ [] ∈ t.triggers := by
  unfold Matches
  rw [(Request.normal_eq_nil_iff request).mpr h]
  simp

/-- The templates that match a request, in their order. -/
def matching (request : Text) (ts : List Template) : List Template :=
  ts.filter fun t => t.Matches request

theorem mem_matching {t : Template} {request : Text} {ts : List Template} :
    t ∈ matching request ts ↔ t ∈ ts ∧ t.Matches request := by
  simp [matching]

theorem matching_eq_nil_iff {request : Text} {ts : List Template} :
    matching request ts = [] ↔ ∀ t ∈ ts, ¬ t.Matches request := by
  simp [matching]

end Template

namespace Segmentation

open Template (matching)

/-! ## Repeated names -/

/-- Entities without those under whose name one comes earlier. -/
def withoutRepeats (es : List Entity) : List Entity :=
  (es.zipIdx.filter fun p => !((es.take p.2).map Entity.name).contains p.1.name).map Prod.fst

@[simp] theorem withoutRepeats_nil : withoutRepeats [] = [] := rfl

theorem withoutRepeats_cons (e : Entity) (es : List Entity) :
    withoutRepeats (e :: es) = e :: (withoutRepeats es).filter fun d => d.name ≠ e.name := by
  unfold withoutRepeats
  rw [List.zipIdx_cons', List.filter_cons_of_pos (by simp), List.map_cons, List.filter_map,
    List.map_map, List.filter_map, List.filter_filter]
  -- an entry one place further to the right has one more name before it, that of the first entity
  congr 2
  apply List.filter_congr
  intro p _
  simp

/-- The names stay the same when the repeated ones are left out. -/
theorem mem_names_withoutRepeats {es : List Entity} {n : Text} :
    n ∈ (withoutRepeats es).map Entity.name ↔ n ∈ es.map Entity.name := by
  induction es with
  | nil => rfl
  | cons e es ih =>
    rw [withoutRepeats_cons, List.map_cons, List.map_cons, List.mem_cons, List.mem_cons, ← ih]
    by_cases hn : n = e.name
    · simp [hn]
    · simp only [hn, false_or, List.mem_map, List.mem_filter]
      constructor
      · rintro ⟨d, ⟨hd, -⟩, hname⟩
        exact ⟨d, hd, hname⟩
      · rintro ⟨d, hd, rfl⟩
        exact ⟨d, ⟨hd, by simpa using hn⟩, rfl⟩

/-- No name is repeated when the repeated ones are left out. -/
theorem nodup_names_withoutRepeats (es : List Entity) :
    ((withoutRepeats es).map Entity.name).Nodup := by
  induction es with
  | nil => exact List.nodup_nil
  | cons e es ih =>
    rw [withoutRepeats_cons, List.map_cons, List.nodup_cons]
    refine ⟨fun hmem => ?_, ih.sublist (List.filter_sublist.map Entity.name)⟩
    obtain ⟨d, hd, hname⟩ := List.mem_map.mp hmem
    exact of_decide_eq_true (List.mem_filter.mp hd).2 hname

theorem withoutRepeats_sublist (es : List Entity) : (withoutRepeats es).Sublist es := by
  have hmap := (List.filter_sublist (l := es.zipIdx)
    (p := fun p => !((es.take p.2).map Entity.name).contains p.1.name)).map Prod.fst
  rwa [List.zipIdx_map_fst] at hmap

theorem withoutRepeats_eq_nil_iff {es : List Entity} : withoutRepeats es = [] ↔ es = [] := by
  cases es with
  | nil => exact Iff.rfl
  | cons e es => simp [withoutRepeats_cons]

/-! ## What is found -/

/-- What the rules contribute when some names were seen before: the entities of the matching rules
whose names are neither repeated nor among those. -/
theorem contributions_eq (request : Text) (seen : List Text) (ts : List Template) :
    contributions (Request.normal request) seen ts
      = (withoutRepeats ((matching request ts).map Template.entity)).filter
          fun e => e.name ∉ seen := by
  induction ts generalizing seen with
  | nil => rfl
  | cons t ts ih =>
    rw [contributions]
    by_cases hmatches : t.Matches request
    · have hcons : matching request (t :: ts) = t :: matching request ts :=
        List.filter_cons_of_pos (by simpa using hmatches)
      rw [Template.applies_iff_matches.mpr hmatches, hcons, List.map_cons, withoutRepeats_cons,
        List.filter_cons, List.filter_filter]
      -- the head is kept or was seen; either way the rest is asked for names beyond it and `seen`
      by_cases hseen : t.entity.name ∈ seen
      · rw [if_neg (by simpa using hseen), if_neg (by simpa using hseen), ih]
        apply List.filter_congr
        intro e _
        by_cases hname : e.name = t.entity.name
        · simp [hname, hseen]
        · simp [hname]
      · rw [if_pos (by simpa using hseen), if_pos (by simpa using hseen), ih]
        congr 1
        apply List.filter_congr
        intro e _
        simp [Bool.and_comm]
    · have hcons : matching request (t :: ts) = matching request ts :=
        List.filter_cons_of_neg (by simpa using hmatches)
      rw [Bool.eq_false_iff.mpr (mt Template.applies_iff_matches.mp hmatches), hcons, ← ih]
      rfl

theorem contributions_nil_eq (request : Text) (ts : List Template) :
    contributions (Request.normal request) [] ts
      = withoutRepeats ((matching request ts).map Template.entity) := by
  rw [contributions_eq]
  exact List.filter_eq_self.mpr fun _ _ => by simp

theorem fallback_eq (request : Text) (ts : List Template) :
    fallback (Request.normal request) ts
      = ((matching request ts).head?.map Template.entity).toList := by
  have hfind : ts.find? (·.applies (Request.normal request)) = (matching request ts).head? := by
    rw [matching, List.head?_filter]
    congr 1
    funext t
    rw [Bool.eq_iff_iff, Template.applies_iff_matches, decide_eq_true_iff]
  rw [fallback, hfind]
  cases (matching request ts).head? with
  | none => rfl
  | some t => rfl

/-- Where a rule matches, what is found are the entities of the matching rules. -/
theorem entities_of_rule {table : TemplateTable} {request : Text}
    (h : matching request table.rules ≠ []) :
    (ofRequest table request).entities
      = withoutRepeats ((matching request table.rules).map Template.entity) := by
  have hfound : withoutRepeats ((matching request table.rules).map Template.entity) ≠ [] := by
    rw [ne_eq, withoutRepeats_eq_nil_iff, List.map_eq_nil_iff]
    exact h
  rw [ofRequest, contributions_nil_eq]
  exact if_neg (by simpa using hfound)

/-- Where no rule matches, what is found is the entity of the first matching fallback. -/
theorem entities_of_no_rule {table : TemplateTable} {request : Text}
    (h : matching request table.rules = []) :
    (ofRequest table request).entities
      = ((matching request table.fallbacks).head?.map Template.entity).toList := by
  rw [ofRequest, contributions_nil_eq, h, fallback_eq]
  rfl

/-- The names that are found are those of the matching rules, where one matches. -/
theorem mem_names_of_matches {table : TemplateTable} {request : Text} {t : Template}
    (ht : t ∈ table.rules) (hmatches : t.Matches request) :
    t.entity.name ∈ (ofRequest table request).entities.map Entity.name := by
  have hmem : t ∈ matching request table.rules := Template.mem_matching.mpr ⟨ht, hmatches⟩
  rw [entities_of_rule (List.ne_nil_of_mem hmem), mem_names_withoutRepeats]
  exact List.mem_map_of_mem (List.mem_map_of_mem hmem)

/-- An entity that is found is that of a template that matches. -/
theorem mem_entities {table : TemplateTable} {request : Text} {e : Entity}
    (h : e ∈ (ofRequest table request).entities) :
    ∃ t ∈ table.rules ++ table.fallbacks, t.Matches request ∧ t.entity = e := by
  by_cases hrules : matching request table.rules = []
  · rw [entities_of_no_rule hrules, Option.mem_toList] at h
    obtain ⟨t, ht, rfl⟩ := Option.map_eq_some_iff.mp h
    obtain ⟨hmem, hmatches⟩ := Template.mem_matching.mp (List.mem_of_head? ht)
    exact ⟨t, List.mem_append_right _ hmem, hmatches, rfl⟩
  · rw [entities_of_rule hrules] at h
    obtain ⟨t, ht, rfl⟩ := List.mem_map.mp ((withoutRepeats_sublist _).mem h)
    obtain ⟨hmem, hmatches⟩ := Template.mem_matching.mp ht
    exact ⟨t, List.mem_append_left _ hmem, hmatches, rfl⟩

/-- At most as many entities are found as there are rules, or a single one. -/
theorem length_entities_le (table : TemplateTable) (request : Text) :
    (ofRequest table request).entities.length ≤ table.rules.length + 1 := by
  by_cases hrules : matching request table.rules = []
  · rw [entities_of_no_rule hrules]
    exact Nat.le_trans Option.length_toList_le (Nat.le_add_left 1 _)
  · rw [entities_of_rule hrules]
    have hkept := (withoutRepeats_sublist
      ((matching request table.rules).map Template.entity)).length_le
    have hmatching : (matching request table.rules).length ≤ table.rules.length :=
      List.length_filter_le _ _
    rw [List.length_map] at hkept
    omega

/-- Nothing is found exactly if no template matches. -/
theorem entities_eq_nil_iff {table : TemplateTable} {request : Text} :
    (ofRequest table request).entities = [] ↔
      ∀ t ∈ table.rules ++ table.fallbacks, ¬ t.Matches request := by
  rw [List.forall_mem_append, ← Template.matching_eq_nil_iff, ← Template.matching_eq_nil_iff]
  by_cases hrules : matching request table.rules = []
  · rw [entities_of_no_rule hrules]
    simp [hrules]
  · rw [entities_of_rule hrules, withoutRepeats_eq_nil_iff, List.map_eq_nil_iff]
    exact ⟨fun h => absurd h hrules, And.left⟩

/-! ## Nothing is lost -/

/-- A trigger as it is written matches a request: the phrase it is read as occurs in it. -/
def TriggerMatches (trigger request : Text) : Prop :=
  ∃ phrase, Template.phrase (.str trigger) = .ok phrase ∧
    Text.includes (Request.normal request) phrase = true

theorem triggerMatches_iff {trigger request : Text} :
    TriggerMatches trigger request ↔ Request.normal trigger <:+: Request.normal request := by
  simp [TriggerMatches, Template.phrase, Text.includes_iff]

/-- Triggers match the same requests exactly if they have one normal form. -/
theorem forall_triggerMatches_iff {a b : Text} :
    (∀ request, TriggerMatches a request ↔ TriggerMatches b request) ↔
      Request.normal a = Request.normal b := by
  simp only [triggerMatches_iff]
  constructor
  · intro h
    -- each of them occurs in the other one, so they have one length
    have hba : Request.normal b <:+: Request.normal a := (h a).mp List.infix_rfl
    have hab : Request.normal a <:+: Request.normal b := (h b).mpr List.infix_rfl
    exact hab.eq_of_length_le hba.length_le
  · intro h request
    rw [h]

/-- A request loses nothing when more is asked for behind it or before it. The normal form of two
requests is put together from theirs, of which one is empty only if there are nothing but blanks, so
a template that applies to one of the two applies to both, and what a rule contributes to one of them
is found, by its name, in both. -/
theorem nothing_lost (table : TemplateTable) (p s : Text) :
    Request.normal (Request.normal p) = Request.normal p ∧
    Request.normal (p ++ " " ++ s)
      = Text.join " " ([Request.normal p, Request.normal s].filter (· ≠ [])) ∧
    (∀ request, Request.normal request = [] ↔ Text.isBlank request = true) ∧
    (∀ t ∈ table.rules ++ table.fallbacks,
      t.applies (Request.normal p) = true ∨ t.applies (Request.normal s) = true →
      t.applies (Request.normal (p ++ " " ++ s)) = true) ∧
    (∀ t ∈ table.rules,
      t.applies (Request.normal p) = true ∨ t.applies (Request.normal s) = true →
      t.entity.name ∈ (ofRequest table (p ++ " " ++ s)).entities.map Entity.name) ∧
    ∀ a b : Text, (∀ request, TriggerMatches a request ↔ TriggerMatches b request) ↔
      Request.normal a = Request.normal b := by
  refine ⟨Request.normal_normal p, Request.normal_append p s, Request.normal_eq_nil_iff, ?_, ?_,
    fun _ _ => forall_triggerMatches_iff⟩
  · intro t _ h
    rw [Template.applies_iff_matches, Template.applies_iff_matches] at h
    exact Template.applies_iff_matches.mpr (Template.matches_append h)
  · intro t ht h
    rw [Template.applies_iff_matches, Template.applies_iff_matches] at h
    exact mem_names_of_matches ht (Template.matches_append h)

/-- What either part asks for is found, whatever blanks, quotes and letters it is written in. -/
theorem nothing_lost_of_playlists :
    ∀ t ∈ [Catalog.userPlaylists, Catalog.madeForYouPlaylists],
      t.entity.name ∈ (ofRequest Catalog.table
        ("My\u00a0PLAYLISTS," ++ " " ++ "and “Made\n for you”")).entities.map Entity.name := by
  obtain ⟨-, -, -, -, hfound, -⟩ :=
    nothing_lost Catalog.table "My\u00a0PLAYLISTS," "and “Made\n for you”"
  rw [List.forall_mem_cons, List.forall_mem_singleton]
  exact ⟨hfound Catalog.userPlaylists (by decide) (.inl (by decide +kernel)),
    hfound Catalog.madeForYouPlaylists (by decide) (.inr (by decide +kernel))⟩

/-! ## The meaning of a table -/

/-- What is found by a table that was read. Where a rule matches, it is the entities of the matching
rules in the order of the table, repeated names left out, whatever the fallbacks are; otherwise it
is the entity of the first matching fallback, if there is one. The names are canonical, none is found
twice, and a state that tracks nothing comes to track just these entities. -/
theorem entities_of_table {raw : Json} {table : TemplateTable}
    (h : TemplateTable.ofJson raw = .ok table) (request : Text) :
    (matching request table.rules ≠ [] →
      (ofRequest table request).entities
        = withoutRepeats ((matching request table.rules).map Template.entity) ∧
      ∀ fallbacks, (ofRequest { table with fallbacks } request).entities
        = (ofRequest table request).entities) ∧
    (matching request table.rules = [] →
      (ofRequest table request).entities
        = ((matching request table.fallbacks).head?.map Template.entity).toList) ∧
    ((ofRequest table request).entities.map Entity.name).Nodup ∧
    (∀ e ∈ (ofRequest table request).entities, Naming.canonical e.name = e.name) ∧
    (WorkflowState.empty.discoverAll (ofRequest table request).entities).entities
      = (ofRequest table request).entities.map Progress.start := by
  have hnodup : ((ofRequest table request).entities.map Entity.name).Nodup := by
    by_cases hrules : matching request table.rules = []
    · rw [entities_of_no_rule hrules]
      cases (matching request table.fallbacks).head? with
      | none => exact List.nodup_nil
      | some t => exact List.nodup_singleton _
    · rw [entities_of_rule hrules]
      exact nodup_names_withoutRepeats _
  refine ⟨fun hrules => ⟨entities_of_rule hrules, fun fallbacks => ?_⟩, entities_of_no_rule,
    hnodup, fun e he => ?_, ?_⟩
  · rw [entities_of_rule hrules]
    exact entities_of_rule hrules
  · obtain ⟨t, ht, -, rfl⟩ := mem_entities he
    exact TemplateTable.canonical_of_ofJson h t ht
  · exact WorkflowState.entities_discoverAll_of_new hnodup fun _ _ => List.not_mem_nil

/-- A loose template with a name and triggers. -/
def looseTemplate (name : Text) (triggers : Json) : Json :=
  .obj [("name", .str name), ("triggers", triggers)]

/-- A loose table with two rules for one name, a rule that matches only where the others do, and a
fallback under the name of that rule. -/
def overlapping : Json :=
  .obj [
    ("rules", .arr [
      looseTemplate "Song List" (.texts ["song"]),
      looseTemplate "albums" (.texts ["songs and albums"]),
      looseTemplate "song-list" (.texts ["Songs"])]),
    ("fallbacks", .arr [looseTemplate "albums" (.texts ["music"])])]

/-- The table that is read. -/
def overlappingTable : TemplateTable where
  rules := [⟨["song"], ⟨"song_list", "", []⟩⟩, ⟨["songs and albums"], ⟨"albums", "", []⟩⟩,
    ⟨["songs"], ⟨"song_list", "", []⟩⟩]
  fallbacks := [⟨["music"], ⟨"albums", "", []⟩⟩]

/-- Names that come again are left out, and the fallback is there for other requests. -/
theorem entities_of_overlapping :
    TemplateTable.ofJson overlapping = .ok overlappingTable ∧
    (ofRequest overlappingTable "Songs and ALBUMS, no music").entities.map Entity.name
      = ["song_list", "albums"] ∧
    (ofRequest overlappingTable "Some music").entities.map Entity.name = ["albums"] := by
  have hread : TemplateTable.ofJson overlapping = .ok overlappingTable := rfl
  obtain ⟨hrules, -⟩ := entities_of_table hread "Songs and ALBUMS, no music"
  obtain ⟨-, hfallback, -⟩ := entities_of_table hread "Some music"
  refine ⟨hread, ?_, ?_⟩
  · rw [(hrules (by decide +kernel)).1]
    decide +kernel
  · rw [hfallback (by decide +kernel)]
    decide +kernel

/-! ## Phrases -/

/-- When the phrases of a table that was read are there. Every template has one; that none of them is
empty, and so that nothing is found in a request of nothing but blanks, is the case exactly if every
trigger names a phrase. A template without triggers is turned down, and one with a bare text for
triggers is read with the code points of the text for triggers. -/
theorem phrases_of_table {raw : Json} {table : TemplateTable}
    (h : TemplateTable.ofJson raw = .ok table) :
    (∀ t ∈ table.rules ++ table.fallbacks, t.triggers ≠ []) ∧
    ((∀ t ∈ table.rules ++ table.fallbacks, ∀ phrase ∈ t.triggers, phrase ≠ []) ↔
      TemplateTable.NamesPhrases raw) ∧
    (∀ request, Text.isBlank request = true →
      ((ofRequest table request).entities = [] ↔ TemplateTable.NamesPhrases raw)) ∧
    (∀ ms : Members, ((ms.get? "triggers").getD .null).isGiven = false →
      Template.ofJson (.obj ms)
        = .error (.refused (.noTriggers ((ms.get? "name").getD .null)))) ∧
    ∀ (ms : Members) (s : Text),
      Template.ofJson (.obj (ms.put "triggers" (.str s)))
        = Template.ofJson (.obj (ms.put "triggers" (.arr (s.map fun c => .str [c])))) := by
  have hphrases := TemplateTable.namesPhrases_iff_of_ofJson h
  have htemplates : (∀ v ∈ TemplateTable.looseTemplates raw, True) ↔
      ∀ t ∈ table.rules ++ table.fallbacks, t.triggers ≠ [] :=
    forall_mem_iff_of_forall₂ (TemplateTable.forall₂_of_ofJson h) fun _ _ hread =>
      iff_of_true trivial (Template.isRead_of_ofJson hread).triggers_ne_nil
  refine ⟨htemplates.mp fun _ _ => trivial, hphrases.symm, fun request hblank => ?_,
    fun _ => Template.ofJson_of_no_triggers, Template.ofJson_put_str⟩
  rw [entities_eq_nil_iff, hphrases]
  simp only [Template.matches_iff_of_blank hblank]
  constructor
  · intro hnone t ht phrase hphrase hnil
    exact hnone t ht (hnil ▸ hphrase)
  · intro hall t ht hmem
    exact hall t ht [] hmem rfl

/-- Nothing is found in blanks by a table whose triggers name phrases. -/
theorem phrases_of_overlapping :
    TemplateTable.ofJson overlapping = .ok overlappingTable ∧
    TemplateTable.NamesPhrases overlapping ∧
    (ofRequest overlappingTable " \n").entities = [] := by
  have hread : TemplateTable.ofJson overlapping = .ok overlappingTable := rfl
  obtain ⟨-, hphrases, hblank, -⟩ := phrases_of_table hread
  have hnames : TemplateTable.NamesPhrases overlapping := hphrases.mp (by decide)
  exact ⟨hread, hnames, (hblank " \n" (by decide +kernel)).mpr hnames⟩

/-- A template with a blank trigger is read, with a phrase that is empty, and is found in the empty
request; and a bare text for triggers is read letter by letter. -/
theorem blank_trigger_matches_everything :
    TemplateTable.ofJson (.obj [("rules", .arr [looseTemplate "x" (.texts [" "])])])
      = .ok ⟨[⟨[[]], ⟨"x", "", []⟩⟩], []⟩ ∧
    (ofRequest ⟨[⟨[[]], ⟨"x", "", []⟩⟩], []⟩ []).entities = [⟨"x", "", []⟩] ∧
    TemplateTable.ofJson (.obj [("rules", .arr [looseTemplate "x" (.str "song")])])
      = .ok ⟨[⟨["s", "o", "n", "g"], ⟨"x", "", []⟩⟩], []⟩ :=
  ⟨rfl, by decide +kernel, rfl⟩

end Segmentation

/-! ## The default table -/

/-- The names of the table are canonical names. -/
theorem Catalog.canonical_name : ∀ t ∈ Catalog.table.rules ++ Catalog.table.fallbacks,
    Naming.canonical t.entity.name = t.entity.name := by
  decide +kernel

/-- What is found in a request goes by canonical names. -/
theorem Segmentation.canonical_name {request : Text} {e : Entity}
    (h : e ∈ (ofRequest Catalog.table request).entities) : Naming.canonical e.name = e.name := by
  obtain ⟨t, ht, -, rfl⟩ := mem_entities h
  exact Catalog.canonical_name t ht

end Tablewright
