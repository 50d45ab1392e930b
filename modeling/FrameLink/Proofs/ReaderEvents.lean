import FrameLink.Proofs.Reassembly
import FrameLink.Session.Reader

/-! What the reader of a stream session reports, for every sequence of read outcomes while the
session stays connected. The reader reads on after data and, when failures do not end the
session, after a time limit that ran out (`ReadOutcome.readsOn`); it stops at any other outcome,
or at data whose frame length is refused. Every frame it hands on is a frame of all the data
received before it stops, read in one piece: a time limit between two pieces of a frame does not
lose the bytes already received. When it stops it reports once (`finalEvents`): the end of the
session alone for the peer closing or the connection dropping under it; a failure and then the end
of the session for a refused frame length, whatever the options, and for any other failure when
failures end the session; the failure alone otherwise.

The proof carries a waiting reassembler through the outcomes; what pushing the concatenated data
gives is known from what pushing its first piece gives (`push_append_of_error`,
`push_append_of_ok`). Main statement: `reader_reports_frames_then_one_ending`. -/

namespace FrameLink

namespace ReadOutcome

/-- The outcomes the reader reads on after: data, and a time limit that ran out when failures do
not end the session. -/
def readsOn (disconnectOnError : Bool) : ReadOutcome → Bool
  | .data _ => true
  | .failed .timedOut _ => !disconnectOnError
  | _ => false

def bytes? : ReadOutcome → Option (List UInt8)
  | .data bytes => some bytes
  | _ => none

def timeout? : ReadOutcome → Option IoError
  | .failed .timedOut e => some e
  | _ => none

end ReadOutcome

namespace StreamEvent

@[simp]
def frame? : StreamEvent → Option Packet
  | .frame payload => some payload
  | _ => none

@[simp]
def failure? : StreamEvent → Option (FailedOperation × NetError)
  | .failed operation error => some (operation, error)
  | _ => none

def isClosed : StreamEvent → Bool
  | .closed => true
  | _ => false

@[simp] theorem filterMap_frame?_comp_frame (payloads : List Packet) :
    payloads.filterMap (frame? ∘ frame) = payloads := by
  simp [Function.comp_def, frame?]

@[simp] theorem filterMap_failure?_comp_frame (payloads : List Packet) :
    payloads.filterMap (failure? ∘ frame) = [] := by
  simp [Function.comp_def, failure?]

end StreamEvent

/-- What the reader reports when it stops: after a refused frame length, the refusal and the end;
otherwise, for the outcome it stops at, the end or a report followed by the end. -/
def finalEvents (disconnectOnError : Bool) : Option NetError → List ReadOutcome → List StreamEvent
  | some e, _ => [.failed .receiveTcp e, .closed]
  | none, .eof :: _ => [.closed]
  | none, .failed .remoteClose _ :: _ => [.closed]
  | none, .failed _ e :: _ =>
    .failed .receiveTcp (.io e) :: if disconnectOnError then [.closed] else []
  | none, _ => []

theorem countP_isClosed_finalEvents_le (d : Bool) (error : Option NetError)
    (rest : List ReadOutcome) : (finalEvents d error rest).countP StreamEvent.isClosed ≤ 1 := by
  unfold finalEvents
  split
  all_goals try split
  all_goals simp [StreamEvent.isClosed]

/-! ### Pushing the concatenated data -/

namespace Reassembler

open FrameLink.Frame

variable {r : Reassembler} {data : List UInt8}

theorem push_nil (hr : r.Waiting) : r.push [] = ⟨[], none, r⟩ := by
  have hwaiting : parse r.limit r.pending = ([], .incomplete r.pending) := hr
  rw [push_eq]
  simp [hwaiting]

theorem push_append_of_error (more : List UInt8) {e : NetError}
    (h : (r.push data).error = some e) :
    (r.push (data ++ more)).frames = (r.push data).frames ∧
      (r.push (data ++ more)).error = some e := by
  have hrefusal := h
  rw [push_eq] at hrefusal
  cases hstop : (parse r.limit (r.pending ++ data)).2 with
  | incomplete rest => simp [hstop] at hrefusal
  | refused e' =>
    have hsame : parse r.limit (r.pending ++ (data ++ more)) = parse r.limit (r.pending ++ data) := by
      rw [← List.append_assoc, parse_append_of_refused hstop]
    refine ⟨by simp only [push_eq, hsame], ?_⟩
    rw [← h]
    simp only [push_eq, hsame]

theorem push_append_of_ok (more : List UInt8) (h : (r.push data).error = none) :
    (r.push (data ++ more)).frames = (r.push data).frames ++ ((r.push data).next.push more).frames ∧
      (r.push (data ++ more)).error = ((r.push data).next.push more).error := by
  rw [push_eq] at h
  cases hstop : (parse r.limit (r.pending ++ data)).2 with
  | refused e => simp [hstop] at h
  | incomplete rest =>
    refine ⟨?_, ?_⟩ <;> simp only [push_eq, hstop, Stop.leftover, ← List.append_assoc,
      parse_append_of_incomplete hstop, List.map_append]

end Reassembler

/-! ### The reader's events -/

section Reader

open ReadOutcome StreamEvent

variable {d : Bool}

/-- At an outcome it does not read on after, the reader reports what `finalEvents` says for it. -/
theorem readEvents_of_stop (r : Reassembler) {o : ReadOutcome} (hstop : readsOn d o = false)
    (rest : List ReadOutcome) : readEvents d r (o :: rest) = finalEvents d none (o :: rest) := by
  cases o with
  | data bytes => simp [readsOn] at hstop
  | eof => rfl
  | failed kind e =>
    cases kind with
    | remoteClose => rfl
    | other => cases d <;> rfl
    | timedOut =>
      cases d with
      | true => rfl
      | false => simp [readsOn] at hstop

/-- The reader's events up to the outcome it stops at: the frames of all the data before it, read in
one piece, a report for each time limit, then what `finalEvents` says. -/
theorem readEvents_split {r : Reassembler} (hr : r.Waiting) (outcomes : List ReadOutcome) :
    let before := outcomes.takeWhile (readsOn d)
    let whole := r.push (before.filterMap bytes?).flatten
    ∃ body, readEvents d r outcomes = body ++ finalEvents d whole.error (outcomes.dropWhile (readsOn d)) ∧
      body.filterMap frame? = whole.frames ∧ (∀ ev ∈ body, ev.isClosed = false) ∧
      body.filterMap failure? <+: (before.filterMap timeout?).map (fun e => (.receiveTcp, .io e)) ∧
      (whole.error = none →
        body.filterMap failure? = (before.filterMap timeout?).map (fun e => (.receiveTcp, .io e))) := by
  induction outcomes generalizing r with
  | nil =>
    refine ⟨[], ?_, ?_, ?_, ?_, ?_⟩ <;> simp [readEvents, finalEvents, Reassembler.push_nil hr]
  | cons o rest ih =>
    by_cases hstop : readsOn d o = false
    · refine ⟨[], ?_, ?_, ?_, ?_, ?_⟩ <;>
        simp [hstop, readEvents_of_stop r hstop, Reassembler.push_nil hr]
    cases o with
    | data bytes =>
      simp only [List.takeWhile_cons, List.dropWhile_cons, readsOn, if_true, List.filterMap_cons,
        ReadOutcome.bytes?, ReadOutcome.timeout?, List.flatten_cons]
      cases herror : (r.push bytes).error with
      | some e =>
        obtain ⟨hframes, hwhole⟩ := Reassembler.push_append_of_error
          ((rest.takeWhile (readsOn d)).filterMap bytes?).flatten herror
        refine ⟨(r.push bytes).frames.map .frame, ?_, ?_, ?_, ?_, ?_⟩
        · simp [readEvents, herror, hwhole, finalEvents]
        · simp [hframes]
        · simp [isClosed]
        · simp
        · simp [hwhole]
      | none =>
        obtain ⟨body, hevents, hframes, hclosed, hprefix, hall⟩ :=
          ih (r := (r.push bytes).next) (Reassembler.waiting_push r bytes)
        obtain ⟨hwholeFrames, hwhole⟩ := Reassembler.push_append_of_ok
          ((rest.takeWhile (readsOn d)).filterMap bytes?).flatten herror
        refine ⟨(r.push bytes).frames.map .frame ++ body, ?_, ?_, ?_, ?_, ?_⟩
        · simp [readEvents, herror, hevents, hwhole]
        · simp [hwholeFrames, hframes]
        · intro ev hev
          rcases List.mem_append.1 hev with hev | hev
          · obtain ⟨p, -, rfl⟩ := List.mem_map.1 hev
            rfl
          · exact hclosed ev hev
        · simpa using hprefix
        · intro hnone
          rw [hwhole] at hnone
          simpa using hall hnone
    | eof => simp [readsOn] at hstop
    | failed kind e =>
      obtain ⟨rfl, rfl⟩ : kind = .timedOut ∧ d = false := by
        cases kind <;> cases d <;> simp_all [readsOn]
      obtain ⟨body, hevents, hframes, hclosed, hprefix, hall⟩ := ih hr
      simp only [List.takeWhile_cons, List.dropWhile_cons, readsOn, Bool.not_false, if_true,
        List.filterMap_cons, ReadOutcome.bytes?, ReadOutcome.timeout?, List.map_cons]
      refine ⟨.failed .receiveTcp (.io e) :: body, ?_, ?_, ?_, ?_, ?_⟩
      · simp [readEvents, hevents]
      · rw [List.filterMap_cons_none rfl]
        exact hframes
      · intro ev hev
        rcases List.mem_cons.1 hev with rfl | hev
        · rfl
        · exact hclosed ev hev
      · simpa [failure?] using hprefix
      · intro hnone
        simpa [failure?] using hall hnone

/-- For every sequence of read outcomes, the reader reports the frames of all the data in one piece
and the reports of its time limits, then one ending: the session ends at most once. -/
theorem reader_reports_frames_then_one_ending (d : Bool) (limit : Nat)
    (outcomes : List ReadOutcome) :
    let before := outcomes.takeWhile (readsOn d)
    let whole := (Reassembler.new limit).push (before.filterMap bytes?).flatten
    (∃ body, readEvents d (Reassembler.new limit) outcomes =
        body ++ finalEvents d whole.error (outcomes.dropWhile (readsOn d)) ∧
      body.filterMap frame? = whole.frames ∧ (∀ ev ∈ body, ev.isClosed = false) ∧
      body.filterMap failure? <+: (before.filterMap timeout?).map (fun e => (.receiveTcp, .io e)) ∧
      (whole.error = none →
        body.filterMap failure? = (before.filterMap timeout?).map (fun e => (.receiveTcp, .io e)))) ∧
    (readEvents d (Reassembler.new limit) outcomes).countP isClosed ≤ 1 := by
  intro before whole
  obtain ⟨body, hevents, hframes, hclosed, hprefix, hall⟩ :=
    readEvents_split (d := d) (Reassembler.waiting_new limit) outcomes
  refine ⟨⟨body, hevents, hframes, hclosed, hprefix, hall⟩, ?_⟩
  have hbody : body.countP isClosed = 0 := List.countP_eq_zero.2 fun ev hev => by
    simp [hclosed ev hev]
  rw [hevents, List.countP_append, hbody, Nat.zero_add]
  exact countP_isClosed_finalEvents_le d _ _

end Reader

end FrameLink
