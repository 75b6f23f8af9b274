/-
A ledger is a faithful log.

Whatever is asked of a ledger, and in which order, its answers are those of the list of recordings
made so far (`Recording.Answers`): an id that is there is turned down, any other recording is added,
and what is read are records that tell what the recordings tell, from the newest back. One request
is answered so, and leaves the file with the log the answer goes with (`Ledger.Serving.answer`); a
history of requests follows by induction.
-/
import Tablewright.Proofs.Ledger.File

set_option autoImplicit false

namespace Tablewright

/-! ## Requests and answers -/

/-- What is asked of a ledger. -/
inductive LedgerRequest where
  /-- Record a report. -/
  | record (e : Recording)
  /-- The newest run. -/
  | latest
  /-- The newest runs, up to a limit. -/
  | recent (limit : Nat)
  /-- Connect to the ledger again. -/
  | reopen

/-- What a ledger answers. -/
inductive LedgerReply where
  /-- The report is recorded. -/
  | recorded
  /-- The newest run, if there is one. -/
  | newest (r : Option RunRecord)
  /-- The newest runs. -/
  | listed (rs : List RunRecord)
  /-- The ledger is connected. -/
  | opened

namespace Ledger

/-- Serve a request at the ledger of an address. -/
def serve (workingDirectory : Location) (url : Text) (ledger : Ledger) :
    LedgerRequest → FileAction (LedgerReply × Ledger)
  | .record e => do return (.recorded, ← ledger.record e.record)
  | .latest => do return (.newest (← ledger.latest), ledger)
  | .recent limit => do return (.listed (← ledger.recent (some limit)), ledger)
  | .reopen => do return (.opened, ← connect workingDirectory url)

/-- What a request comes to: the answer, the ledger in use then and the tree. After a failure the
same ledger stays in use. -/
def answer (workingDirectory : Location) (url : Text) (ledger : Ledger) (t : Tree)
    (q : LedgerRequest) : Except Failure LedgerReply × Ledger × Tree :=
  match (ledger.serve workingDirectory url q).run t with
  | (.ok (reply, next), t') => (.ok reply, next, t')
  | (.error f, t') => (.error f, ledger, t')

/-- What the requests of a history come to, one after another: the answers, each with the tree it
leaves. -/
def serveAll (workingDirectory : Location) (url : Text) :
    Ledger → Tree → List LedgerRequest → List (Except Failure LedgerReply × Tree)
  | _, _, [] => []
  | ledger, t, q :: qs =>
    let (reply, next, t') := ledger.answer workingDirectory url t q
    (reply, t') :: serveAll workingDirectory url next t' qs

end Ledger

/-! ## What a log answers -/

/-- The answer of a log of recordings to a request, and the log that goes with it. -/
inductive Recording.Answers (log : List Recording) :
    LedgerRequest → Except Failure LedgerReply → List Recording → Prop
  /-- A recording whose id is there is turned down. -/
  | known {e : Recording} (h : ∃ e' ∈ log, e'.report.id = e.report.id) :
      Answers log (.record e) (.error (.defect .duplicateRun)) log
  /-- Any other recording is added. -/
  | new {e : Recording} (h : ∀ e' ∈ log, e'.report.id ≠ e.report.id) :
      Answers log (.record e) (.ok .recorded) (log ++ [e])
  /-- The newest run is the first from the newest back, if anything is recorded. -/
  | latest {order : List Recording} {r : Option RunRecord} (horder : NewestFirst log order)
      (h : Option.Rel RunRecord.Tells r order.head?) : Answers log .latest (.ok (.newest r)) log
  /-- The newest runs are the first from the newest back, as many as there are up to the limit. -/
  | recent {order : List Recording} {limit : Nat} {rs : List RunRecord}
      (horder : NewestFirst log order)
      (h : List.Forall₂ RunRecord.Tells rs (order.take (min limit log.length))) :
      Answers log (.recent limit) (.ok (.listed rs)) log
  /-- Connecting again changes nothing. -/
  | reopen : Answers log .reopen (.ok .opened) log

namespace Ledger

/-- Answers, each with the tree it leaves, that are those of a log: after each of them the file holds
the log that goes with the answer. -/
inductive Faithful (l : Location) :
    List Recording → List LedgerRequest → List (Except Failure LedgerReply × Tree) → Prop
  | done (log : List Recording) : Faithful l log [] []
  | next {log log' : List Recording} {q : LedgerRequest} {qs : List LedgerRequest}
      {reply : Except Failure LedgerReply} {t : Tree}
      {course : List (Except Failure LedgerReply × Tree)} (hanswer : Recording.Answers log q reply log')
      (hholds : t.HoldsLog l log') (hrest : Faithful l log' qs course) :
      Faithful l log (q :: qs) ((reply, t) :: course)

variable {workingDirectory l : Location} {url : Text} {t t₀ : Tree} {log : List Recording}
  {q : LedgerRequest} {qs : List LedgerRequest}

/-! ## One request -/

/-- A tree in which the ledger of an address is in use: connecting to it comes to the file and changes
nothing, the file holds a log, the recordings of the log fit, and no id stands twice in it. -/
structure Serving (workingDirectory : Location) (url : Text) (l : Location) (t : Tree)
    (log : List Recording) : Prop where
  opens : (connect workingDirectory url).run t = (.ok (.inFile l), t)
  holds : t.HoldsLog l log
  fits : ∀ e ∈ log, e.Fits
  ids : (log.map (·.report.id)).Nodup

/-- A later tree in which the file holds the same log is one in which the ledger is in use. -/
theorem Serving.evolves {t' : Tree} (h : Serving workingDirectory url l t log)
    (hlater : t.Evolves t') (hholds : t'.HoldsLog l log) :
    Serving workingDirectory url l t' log where
  opens := connect_again h.opens hlater
  holds := hholds
  fits := h.fits
  ids := h.ids

/-- A later tree in which the file holds one more recording, with a new id. -/
theorem Serving.append {t' : Tree} {e : Recording} (h : Serving workingDirectory url l t log)
    (hlater : t.Evolves t') (hholds : t'.HoldsLog l (log ++ [e])) (hfits : e.Fits)
    (hnew : ∀ e' ∈ log, e'.report.id ≠ e.report.id) :
    Serving workingDirectory url l t' (log ++ [e]) where
  opens := connect_again h.opens hlater
  holds := hholds
  fits := by
    rw [List.forall_mem_append, List.forall_mem_singleton]
    exact ⟨h.fits, hfits⟩
  ids := by
    rw [List.map_append, List.map_singleton, List.nodup_append]
    refine ⟨h.ids, List.nodup_singleton _, ?_⟩
    intro id hid id' hid'
    obtain ⟨e', he', rfl⟩ := List.mem_map.mp hid
    rw [List.mem_singleton.mp hid']
    exact hnew e' he'

/-- Records of recordings tell what these tell, one by one. -/
theorem tells_map_record (es : List Recording) :
    List.Forall₂ RunRecord.Tells (es.map Recording.record) es :=
  List.forall₂_map_left_iff.mpr (List.forall₂_same.mpr fun e _ => e.tells_record)

/-- **One request.** It is answered as by the log, the same ledger stays in use, and the file holds
the log that goes with the answer. -/
theorem Serving.answer (h : Serving workingDirectory url l t log)
    (hfits : ∀ e, q = .record e → e.Fits) :
    ∃ reply log' t', Ledger.answer workingDirectory url (.inFile l) t q = (reply, .inFile l, t') ∧
      Recording.Answers log q reply log' ∧ Serving workingDirectory url l t' log' := by
  cases q with
  | record e =>
    by_cases hknown : ∃ e' ∈ log, e'.report.id = e.report.id
    · obtain ⟨t', hrun, hlater, hholds⟩ := record_known h.holds (hfits e rfl) hknown
      refine ⟨_, log, t', ?_, .known hknown, h.evolves hlater hholds⟩
      rw [Ledger.answer, serve, Effect.run_bind, hrun]
    · have hnew : ∀ e' ∈ log, e'.report.id ≠ e.report.id := fun e' he' hid => hknown ⟨e', he', hid⟩
      obtain ⟨t', hrun, hlater, hholds⟩ := record_new h.holds (hfits e rfl) hnew
      refine ⟨_, log ++ [e], t', ?_, .new hnew, h.append hlater hholds (hfits e rfl) hnew⟩
      rw [Ledger.answer, serve, Effect.run_bind, hrun]
      rfl
  | latest =>
    obtain ⟨order, t', horder, hrun, hlater, hholds⟩ := latest_run h.holds h.fits h.ids
    have htells : Option.Rel RunRecord.Tells (order.head?.map Recording.record) order.head? := by
      cases order.head? with
      | none => exact .none
      | some e => exact .some e.tells_record
    refine ⟨_, log, t', ?_, .latest horder htells, h.evolves hlater hholds⟩
    rw [Ledger.answer, serve, Effect.run_bind, hrun]
    rfl
  | recent limit =>
    obtain ⟨order, t', horder, hrun, hlater, hholds⟩ := recent_run h.holds h.fits h.ids limit
    rw [List.take_eq_take_min, horder.all.length_eq] at hrun
    refine ⟨_, log, t', ?_, .recent horder (tells_map_record _), h.evolves hlater hholds⟩
    rw [Ledger.answer, serve, Effect.run_bind, hrun]
    rfl
  | reopen =>
    refine ⟨_, log, t, ?_, .reopen, h⟩
    rw [Ledger.answer, serve, Effect.run_bind, h.opens]
    rfl

/-! ## Histories -/

/-- **A history of requests.** -/
theorem Serving.serveAll (h : Serving workingDirectory url l t log)
    (hfits : ∀ e, LedgerRequest.record e ∈ qs → e.Fits) :
    Faithful l log qs (Ledger.serveAll workingDirectory url (.inFile l) t qs) := by
  induction qs generalizing t log with
  | nil => exact .done log
  | cons q qs ih =>
    obtain ⟨reply, log', t', hrun, hanswer, hserving⟩ :=
      h.answer fun e hq => hfits e (List.mem_cons.mpr (.inl hq.symm))
    rw [Ledger.serveAll, hrun]
    exact .next hanswer hserving.holds
      (ih hserving fun e hq => hfits e (List.mem_cons_of_mem _ hq))

/-- **A ledger is a faithful log.** Once a connection has come to a file that holds a log, any history
of requests is answered as by the log, which grows by the recordings with new ids and by nothing
else. -/
theorem faithful_log (hopen : (connect workingDirectory url).run t₀ = (.ok (.inFile l), t))
    (hholds : t.HoldsLog l log) (hlog : ∀ e ∈ log, e.Fits)
    (hids : (log.map (·.report.id)).Nodup) (hfits : ∀ e, LedgerRequest.record e ∈ qs → e.Fits) :
    Faithful l log qs (serveAll workingDirectory url (.inFile l) t qs) :=
  Serving.serveAll
    { opens := connect_again hopen (Tree.Extends.refl t).evolves
      holds := hholds
      fits := hlog
      ids := hids } hfits

/-- The recording of a report on one entity with one completed stage. -/
def albumsRecording (id : Text) (createdAt : Int) : Recording where
  report :=
    { id
      request := "store popular albums"
      status := .budgetExhausted
      budget := 15
      dryRun := false
      steps := []
      state := ⟨[⟨⟨"popular_albums", "", []⟩, [.schemaWritten]⟩]⟩
      finalAnswer := none }
  createdAt
  microsecond := .zero

theorem fits_albumsRecording {id : Text} (h : id.HasEncoding) (createdAt : Int) :
    (albumsRecording id createdAt).Fits where
  id := h
  request := Text.hasEncoding_ofString _
  finalAnswer _ hnone := by cases hnone
  names name hname := by
    obtain rfl := List.mem_singleton.mp hname
    exact Text.hasEncoding_ofString _
  stepsUsed := show 0 < twoTo 63 by decide
  budget := show -(twoTo 63 : Int) ≤ 15 ∧ 15 < (twoTo 63 : Int) by decide

/-- A history with two recordings at one time, one at an earlier time, and one with a known id. -/
def albumsHistory : List LedgerRequest := [
    .latest, .record (albumsRecording "run-2" 60), .record (albumsRecording "run-3" 0), .reopen,
    .record (albumsRecording "run-1" 90), .recent 2]

/-- The address of a ledger in the working directory. -/
def albumsAddress : Text := "sqlite:///runs.db"

/-- The file of that ledger, seen from the root. -/
def albumsFile : Location := ["runs.db"]

/-- A tree with nothing but the file of a ledger with one recording. -/
def albumsTree : Tree := ⟨[(albumsFile, .ledger (Recording.rows [albumsRecording "run-1" 60]))]⟩

theorem connect_albums :
    (connect [] albumsAddress).run albumsTree = (.ok (.inFile albumsFile), albumsTree) := by
  have hread : (Address.ofText albumsAddress).toOption.map (fun a => (a, a.place? []))
      = some ((⟨"sqlite", none, none, none, none, some "runs.db", []⟩ : Address),
        some albumsFile) := by
    decide +kernel
  obtain ⟨a, haddress, ha⟩ := Effect.result_ok_of_map hread
  obtain ⟨rfl, hplace⟩ := Prod.mk.inj ha
  have hmade : (FileAction.makeDirectory []).run albumsTree = (.ok (), albumsTree) :=
    FileAction.makeDirectory_of_directory (d := []) rfl
  exact connect_inFile_iff.mpr ⟨_, albumsFile, haddress, hplace, hmade, by decide +kernel,
    by decide +kernel, by decide⟩

theorem faithful_log_albums :
    (connect [] albumsAddress).run albumsTree = (.ok (.inFile albumsFile), albumsTree) ∧
      albumsTree.HoldsLog albumsFile [albumsRecording "run-1" 60] ∧
      (∀ e, LedgerRequest.record e ∈ albumsHistory → e.Fits) ∧
      Faithful albumsFile [albumsRecording "run-1" 60] albumsHistory
        (serveAll [] albumsAddress (.inFile albumsFile) albumsTree albumsHistory) := by
  have hholds : albumsTree.HoldsLog albumsFile [albumsRecording "run-1" 60] := .kept (by rfl)
  have hlog : ∀ e ∈ [albumsRecording "run-1" 60], e.Fits :=
    List.forall_mem_singleton.mpr (fits_albumsRecording (Text.hasEncoding_ofString _) 60)
  have hfits : ∀ e, LedgerRequest.record e ∈ albumsHistory → e.Fits := by
    intro e he
    simp only [albumsHistory, List.mem_cons, LedgerRequest.record.injEq, reduceCtorEq, false_or,
      List.not_mem_nil, or_false] at he
    rcases he with rfl | rfl | rfl <;> exact fits_albumsRecording (Text.hasEncoding_ofString _) _
  exact ⟨connect_albums, hholds, hfits,
    faithful_log connect_albums hholds hlog (List.nodup_singleton _) hfits⟩

end Ledger

end Tablewright
