import FrameLink.Frame.Reassembler

/-! Cutting frames out of a chunked stream. A reassembler that receives a byte stream in pieces
hands out the same frames as the reference reading of the whole stream at once (`Frame.parse`),
and fails with the same refusal, on the push that brings in the last byte of the refused length
prefix. The pieces may be cut anywhere: inside a length prefix, on a frame boundary, or several
frames and a partial prefix in one piece.

The proof rests on two facts about the reference reading. Reading more bytes after a stop resumes
from the bytes left over, and a refusal is final (`parse_append_of_incomplete`,
`parse_append_of_refused`). The bytes a reassembler keeps between pushes are exactly such leftover
bytes: they hold no whole frame and no refused prefix (`Waiting`), and every push leaves the
reassembler in that state. -/

namespace FrameLink.Frame

variable {limit : Nat} {bytes more : List UInt8}

/-- The bytes the frames take on the stream, their length prefixes included. -/
def span : List (List UInt8) → Nat
  | [] => 0
  | frame :: rest => prefixSize + frame.length + span rest

@[simp] theorem span_nil : span [] = 0 := rfl

@[simp] theorem span_cons (frame : List UInt8) (rest : List (List UInt8)) :
    span (frame :: rest) = prefixSize + frame.length + span rest := rfl

@[simp] theorem span_append (first second : List (List UInt8)) :
    span (first ++ second) = span first + span second := by
  induction first with
  | nil => simp
  | cons frame rest ih =>
      simp only [List.cons_append, span_cons, ih]
      omega

@[simp] def Stop.refusal : Stop → Option NetError
  | .incomplete _ => none
  | .refused e => some e

@[simp] def Stop.leftover : Stop → List UInt8
  | .incomplete rest => rest
  | .refused _ => []

theorem announced_append (more : List UInt8) (h : prefixSize ≤ bytes.length) :
    announced (bytes ++ more) = announced bytes := by
  rw [announced, announced, List.take_append_of_le_length h]

/-! ### One step of the reference reading -/

theorem parse_short (h : bytes.length < prefixSize) :
    parse limit bytes = ([], .incomplete bytes) := by
  rw [parse, if_pos h]

theorem parse_nonpositive (h : prefixSize ≤ bytes.length) (hlength : announced bytes ≤ 0) :
    parse limit bytes = ([], .refused (.invalidFrameLength (announced bytes))) := by
  rw [parse, if_neg (by omega)]
  simp only [hlength, if_true]

theorem parse_too_large (h : prefixSize ≤ bytes.length) (hlength : 0 < announced bytes)
    (hlimit : limit < (announced bytes).toNat) :
    parse limit bytes = ([], .refused (.frameTooLarge (announced bytes).toNat limit)) := by
  rw [parse, if_neg (by omega)]
  simp only [show ¬announced bytes ≤ 0 by omega, hlimit, if_true, if_false]

theorem parse_waiting (hlength : 0 < announced bytes) (hlimit : (announced bytes).toNat ≤ limit)
    (hshort : bytes.length < prefixSize + (announced bytes).toNat) (h : prefixSize ≤ bytes.length) :
    parse limit bytes = ([], .incomplete bytes) := by
  rw [parse, if_neg (by omega)]
  simp only [show ¬announced bytes ≤ 0 by omega, show ¬limit < (announced bytes).toNat by omega,
    hshort, if_true, if_false]

theorem parse_frame (hlength : 0 < announced bytes) (hlimit : (announced bytes).toNat ≤ limit)
    (hwhole : prefixSize + (announced bytes).toNat ≤ bytes.length) :
    parse limit bytes =
      ((bytes.drop prefixSize).take (announced bytes).toNat ::
        (parse limit (bytes.drop (prefixSize + (announced bytes).toNat))).1,
        (parse limit (bytes.drop (prefixSize + (announced bytes).toNat))).2) := by
  rw [parse, if_neg (by omega)]
  simp only [show ¬announced bytes ≤ 0 by omega, show ¬limit < (announced bytes).toNat by omega,
    show ¬bytes.length < prefixSize + (announced bytes).toNat by omega, if_false]

theorem parse_append_frame (hlength : 0 < announced bytes)
    (hlimit : (announced bytes).toNat ≤ limit)
    (hwhole : prefixSize + (announced bytes).toNat ≤ bytes.length) :
    parse limit (bytes ++ more) =
      ((bytes.drop prefixSize).take (announced bytes).toNat ::
        (parse limit (bytes.drop (prefixSize + (announced bytes).toNat) ++ more)).1,
        (parse limit (bytes.drop (prefixSize + (announced bytes).toNat) ++ more)).2) := by
  have hprefix : prefixSize ≤ bytes.length := by omega
  have hsame := announced_append more hprefix
  have hlonger : prefixSize + (announced (bytes ++ more)).toNat ≤ (bytes ++ more).length := by
    rw [hsame, List.length_append]
    omega
  rw [parse_frame (hsame ▸ hlength) (hsame ▸ hlimit) hlonger, hsame,
    List.drop_append_of_le_length hwhole, List.drop_append_of_le_length hprefix,
    List.take_append_of_le_length (by rw [List.length_drop]; omega)]

/-! ### Reading on after a stop -/

/-- A refusal is final: bytes after it change nothing. -/
theorem parse_append_of_refused {e : NetError} (h : (parse limit bytes).2 = .refused e) :
    parse limit (bytes ++ more) = parse limit bytes := by
  fun_induction parse limit bytes with
  | case1 => simp at h
  | case2 bytes hshort length hlength =>
      have hsame := announced_append more (show prefixSize ≤ bytes.length by omega)
      rw [parse_nonpositive (by simp; omega) (hsame ▸ hlength), hsame]
  | case3 bytes hshort length hlength hlimit =>
      have hsame := announced_append more (show prefixSize ≤ bytes.length by omega)
      rw [parse_too_large (by simp; omega) (by omega) (hsame ▸ hlimit), hsame]
  | case4 => simp at h
  | case5 bytes hshort length hlength hlimit hwhole tail ih =>
      rw [parse_append_frame (by omega) (by omega) (by omega), ih h]

/-- Reading stopped short of a whole frame resumes from the bytes left over. -/
theorem parse_append_of_incomplete {rest : List UInt8}
    (h : (parse limit bytes).2 = .incomplete rest) :
    parse limit (bytes ++ more) =
      ((parse limit bytes).1 ++ (parse limit (rest ++ more)).1, (parse limit (rest ++ more)).2) := by
  fun_induction parse limit bytes with
  | case1 bytes hshort =>
      obtain rfl : bytes = rest := by simpa using h
      simp
  | case2 => simp at h
  | case3 => simp at h
  | case4 bytes hshort length hlength hlimit hwaiting =>
      obtain rfl : bytes = rest := by simpa using h
      simp
  | case5 bytes hshort length hlength hlimit hwhole tail ih =>
      rw [parse_append_frame (by omega) (by omega) (by omega), ih h]
      rfl

theorem length_eq_span_add_of_incomplete {rest : List UInt8}
    (h : (parse limit bytes).2 = .incomplete rest) :
    bytes.length = span (parse limit bytes).1 + rest.length := by
  fun_induction parse limit bytes with
  | case1 bytes hshort =>
      obtain rfl : bytes = rest := by simpa using h
      simp
  | case2 => simp at h
  | case3 => simp at h
  | case4 bytes hshort length hlength hlimit hwaiting =>
      obtain rfl : bytes = rest := by simpa using h
      simp
  | case5 bytes hshort length hlength hlimit hwhole tail ih =>
      have hnext := ih h
      simp only [tail, span_cons, List.length_take, List.length_drop] at hnext ⊢
      omega

/-- The bytes left over hold no whole frame and no refused prefix. -/
theorem parse_leftover {rest : List UInt8} (h : (parse limit bytes).2 = .incomplete rest) :
    parse limit rest = ([], .incomplete rest) := by
  fun_induction parse limit bytes with
  | case1 bytes hshort =>
      obtain rfl : bytes = rest := by simpa using h
      exact parse_short hshort
  | case2 => simp at h
  | case3 => simp at h
  | case4 bytes hshort length hlength hlimit hwaiting =>
      obtain rfl : bytes = rest := by simpa using h
      exact parse_waiting (by omega) (by omega) hwaiting (by omega)
  | case5 bytes hshort length hlength hlimit hwhole tail ih => exact ih h

theorem span_add_prefixSize_le_of_refused {e : NetError} (h : (parse limit bytes).2 = .refused e) :
    span (parse limit bytes).1 + prefixSize ≤ bytes.length := by
  fun_induction parse limit bytes with
  | case1 => simp at h
  | case2 bytes hshort length hlength =>
      simp only [span_nil]
      omega
  | case3 bytes hshort length hlength hlimit =>
      simp only [span_nil]
      omega
  | case4 => simp at h
  | case5 bytes hshort length hlength hlimit hwhole tail ih =>
      have hnext := ih h
      simp only [tail, span_cons, List.length_take, List.length_drop] at hnext ⊢
      omega

theorem length_lt_of_waiting {waiting : List UInt8} {e : NetError}
    (hwaiting : parse limit waiting = ([], .incomplete waiting))
    (h : (parse limit (waiting ++ more)).2 = .refused e) :
    waiting.length < span (parse limit (waiting ++ more)).1 + prefixSize := by
  fun_induction parse limit waiting with
  | case1 bytes hshort => omega
  | case2 => simp at hwaiting
  | case3 => simp at hwaiting
  | case4 bytes hshort length hlength hlimit hshortBody =>
      have hsame := announced_append more (show prefixSize ≤ bytes.length by omega)
      by_cases hbody : (bytes ++ more).length < prefixSize + length.toNat
      · rw [parse_waiting (hsame ▸ by omega) (hsame ▸ by omega) (hsame ▸ hbody)
          (by simp; omega)] at h
        simp at h
      · rw [parse_frame (hsame ▸ by omega) (hsame ▸ by omega) (hsame ▸ by omega)]
        simp only [span_cons, List.length_take, List.length_drop, hsame, List.length_append]
          at hbody ⊢
        omega
  | case5 => simp at hwaiting

end FrameLink.Frame

namespace FrameLink.Reassembler

open FrameLink.Frame

theorem cutFrom_eq (limit : Nat) (done : List Packet) (bytes : List UInt8) :
    cutFrom limit done bytes =
      ⟨done.reverse ++ (parse limit bytes).1.map Packet.ofBytes, (parse limit bytes).2.refusal,
        (parse limit bytes).2.leftover⟩ := by
  fun_induction cutFrom limit done bytes with
  | case1 done b0 b1 b2 b3 rest length hlength =>
      have hann : announced (b0 :: b1 :: b2 :: b3 :: rest) = length := rfl
      rw [parse_nonpositive (by simp [prefixSize]) (hann ▸ hlength), hann]
      simp
  | case2 done b0 b1 b2 b3 rest length hlength hlimit =>
      have hann : announced (b0 :: b1 :: b2 :: b3 :: rest) = length := rfl
      rw [parse_too_large (by simp [prefixSize]) (by omega) (hann ▸ hlimit), hann]
      simp
  | case3 done b0 b1 b2 b3 rest length hlength hlimit body hbody =>
      have hann : announced (b0 :: b1 :: b2 :: b3 :: rest) = length := rfl
      have hshort : (b0 :: b1 :: b2 :: b3 :: rest).length < prefixSize + length.toNat := by
        simp only [body, List.length_take] at hbody
        simp only [List.length_cons, prefixSize]
        omega
      rw [parse_waiting (by omega) (by omega) (hann ▸ hshort) (by simp [prefixSize])]
      simp
  | case4 done b0 b1 b2 b3 rest length hlength hlimit body hbody ih =>
      have hann : announced (b0 :: b1 :: b2 :: b3 :: rest) = length := rfl
      have hwhole : prefixSize + (announced (b0 :: b1 :: b2 :: b3 :: rest)).toNat ≤
          (b0 :: b1 :: b2 :: b3 :: rest).length := by
        rw [hann]
        simp only [body, List.length_take] at hbody
        simp only [List.length_cons, prefixSize]
        omega
      have hdrop : (b0 :: b1 :: b2 :: b3 :: rest).drop (prefixSize + length.toNat) =
          rest.drop length.toNat := by
        rw [prefixSize, ← List.drop_drop]
        rfl
      rw [ih, parse_frame (by rw [hann]; omega) (by rw [hann]; omega) hwhole, hann, hdrop]
      simp [prefixSize, body]
  | case5 done bytes hshort =>
      have hlength : bytes.length < prefixSize := by
        match bytes, hshort with
        | [], _ | [_], _ | [_, _], _ | [_, _, _], _ => simp [prefixSize]
        | b0 :: b1 :: b2 :: b3 :: rest, h => exact absurd rfl (h b0 b1 b2 b3 rest)
      rw [parse_short hlength]
      simp

/-- One push reads the pending bytes and the new ones as a whole, handing out what the reference
reading cuts and keeping what it leaves over. -/
theorem push_eq (r : Reassembler) (data : List UInt8) :
    r.push data =
      ⟨(parse r.limit (r.pending ++ data)).1.map Packet.ofBytes,
        (parse r.limit (r.pending ++ data)).2.refusal,
        { r with pending := (parse r.limit (r.pending ++ data)).2.leftover }⟩ := by
  simp [push, cut, cutFrom_eq]

/-- What a reassembler holds between pushes: bytes that make no whole frame yet and hold no refused
length prefix. -/
def Waiting (r : Reassembler) : Prop :=
  parse r.limit r.pending = ([], .incomplete r.pending)

theorem waiting_new (limit : Nat) : (new limit).Waiting :=
  parse_short (by simp [new, prefixSize])

theorem waiting_push (r : Reassembler) (data : List UInt8) : (r.push data).next.Waiting := by
  rw [push_eq, Waiting]
  cases hstop : (parse r.limit (r.pending ++ data)).2 with
  | incomplete rest => exact parse_leftover hstop
  | refused e => exact parse_short (by simp [prefixSize])

/-- What pushing pieces one after another hands out, stopping after the first push that fails: the
frames, the refusal, the count of pushes and the reassembler after them. -/
structure Run where
  frames : List Packet
  error : Option NetError
  pushes : Nat
  last : Reassembler

/-- Push the pieces in order until one fails. -/
def pushAll (r : Reassembler) : List (List UInt8) → Run
  | [] => ⟨[], none, 0, r⟩
  | data :: more =>
    let out := r.push data
    match out.error with
    | some e => ⟨out.frames, some e, 1, out.next⟩
    | none =>
      let run := pushAll out.next more
      ⟨out.frames ++ run.frames, run.error, run.pushes + 1, run.last⟩

theorem pushAll_cons_of_refused {r : Reassembler} {data : List UInt8} {e : NetError}
    (more : List (List UInt8)) (h : (parse r.limit (r.pending ++ data)).2 = .refused e) :
    r.pushAll (data :: more) =
      ⟨(parse r.limit (r.pending ++ data)).1.map Packet.ofBytes, some e, 1, { r with pending := [] }⟩ := by
  simp [pushAll, push_eq, h]

theorem pushAll_cons_of_incomplete {r : Reassembler} {data rest : List UInt8}
    (more : List (List UInt8)) (h : (parse r.limit (r.pending ++ data)).2 = .incomplete rest) :
    r.pushAll (data :: more) =
      let run := pushAll { r with pending := rest } more
      ⟨(parse r.limit (r.pending ++ data)).1.map Packet.ofBytes ++ run.frames, run.error,
        run.pushes + 1, run.last⟩ := by
  simp [pushAll, push_eq, h]

theorem pending_append_flatten (r : Reassembler) (data : List UInt8) (more : List (List UInt8)) :
    r.pending ++ (data :: more).flatten = r.pending ++ data ++ more.flatten := by
  simp

/-- A run from a waiting reassembler hands out the frames of the reference reading of all its bytes,
fails with its refusal, and ends holding what that reading leaves over. -/
theorem pushAll_eq_parse (r : Reassembler) (hr : r.Waiting) (chunks : List (List UInt8)) :
    (r.pushAll chunks).frames = (parse r.limit (r.pending ++ chunks.flatten)).1.map Packet.ofBytes ∧
      (r.pushAll chunks).error = (parse r.limit (r.pending ++ chunks.flatten)).2.refusal ∧
      (r.pushAll chunks).last =
        { r with pending := (parse r.limit (r.pending ++ chunks.flatten)).2.leftover } := by
  induction chunks generalizing r with
  | nil =>
      have hwaiting : parse r.limit r.pending = ([], .incomplete r.pending) := hr
      simp [pushAll, hwaiting]
  | cons data more ih =>
      rw [pending_append_flatten]
      cases hstop : (parse r.limit (r.pending ++ data)).2 with
      | refused e =>
          rw [pushAll_cons_of_refused more hstop, parse_append_of_refused hstop]
          simp [hstop]
      | incomplete rest =>
          have hnext : Waiting { r with pending := rest } := parse_leftover hstop
          obtain ⟨hframes, herror, hlast⟩ := ih _ hnext
          rw [pushAll_cons_of_incomplete more hstop, parse_append_of_incomplete hstop]
          simp only at hframes herror hlast
          simp [hframes, herror, hlast]

theorem pushAll_pushes_of_error_eq_none (r : Reassembler) (chunks : List (List UInt8))
    (h : (r.pushAll chunks).error = none) : (r.pushAll chunks).pushes = chunks.length := by
  induction chunks generalizing r with
  | nil => rfl
  | cons data more ih =>
      cases herror : (r.push data).error with
      | some e => simp [pushAll, herror] at h
      | none =>
          simp only [pushAll, herror] at h ⊢
          simp [ih _ h]

/-- The failing push is the one that brings in the last byte of the refused length prefix. -/
theorem pushAll_pushes_of_refused (r : Reassembler) (hr : r.Waiting) (chunks : List (List UInt8))
    {e : NetError} (h : (parse r.limit (r.pending ++ chunks.flatten)).2 = .refused e) :
    ∃ j, (r.pushAll chunks).pushes = j + 1 ∧
      (r.pending ++ (chunks.take j).flatten).length <
        span (parse r.limit (r.pending ++ chunks.flatten)).1 + prefixSize ∧
      span (parse r.limit (r.pending ++ chunks.flatten)).1 + prefixSize ≤
        (r.pending ++ (chunks.take (j + 1)).flatten).length := by
  induction chunks generalizing r with
  | nil =>
      have hwaiting : parse r.limit r.pending = ([], .incomplete r.pending) := hr
      simp [hwaiting] at h
  | cons data more ih =>
      rw [pending_append_flatten] at h ⊢
      cases hstop : (parse r.limit (r.pending ++ data)).2 with
      | refused e' =>
          have hbefore := length_lt_of_waiting hr (by rw [List.append_assoc] at h; exact h)
          rw [← List.append_assoc, parse_append_of_refused hstop] at hbefore
          rw [parse_append_of_refused hstop]
          refine ⟨0, by rw [pushAll_cons_of_refused more hstop], by simpa using hbefore, ?_⟩
          simpa using span_add_prefixSize_le_of_refused hstop
      | incomplete rest =>
          have hnext : Waiting { r with pending := rest } := parse_leftover hstop
          have hlen := length_eq_span_add_of_incomplete hstop
          rw [parse_append_of_incomplete hstop] at h ⊢
          obtain ⟨j, hpushes, hlow, hhigh⟩ := ih _ hnext h
          have hreceived : ∀ i, (r.pending ++ ((data :: more).take (i + 1)).flatten).length =
              span (parse r.limit (r.pending ++ data)).1 + (rest ++ (more.take i).flatten).length := by
            intro i
            simp only [List.take_succ_cons, List.flatten_cons, List.length_append] at hlen ⊢
            omega
          refine ⟨j + 1, by rw [pushAll_cons_of_incomplete more hstop, ← hpushes], ?_, ?_⟩
          · rw [hreceived, span_append, Nat.add_assoc]
            exact Nat.add_lt_add_left hlow _
          · rw [hreceived, span_append, Nat.add_assoc]
            exact Nat.add_le_add_left hhigh _

theorem pushAll_new_eq_parse (limit : Nat) (chunks : List (List UInt8)) :
    ((new limit).pushAll chunks).frames = (parse limit chunks.flatten).1.map Packet.ofBytes ∧
      ((new limit).pushAll chunks).error = (parse limit chunks.flatten).2.refusal ∧
      ((new limit).pushAll chunks).last = ⟨limit, (parse limit chunks.flatten).2.leftover⟩ :=
  pushAll_eq_parse (new limit) (waiting_new limit) chunks

/-- A fresh reassembler fed a stream in any pieces hands out exactly the frames of the reference
reading of the whole stream, and fails with its refusal on the push that completes the prefix. -/
theorem pushAll_new_agrees_with_parse (limit : Nat) (chunks : List (List UInt8)) :
    let run := (new limit).pushAll chunks
    let whole := parse limit chunks.flatten
    run.frames = whole.1.map Packet.ofBytes ∧ run.error = whole.2.refusal ∧
      (∀ e, whole.2 = .refused e → ∃ j, run.pushes = j + 1 ∧
        (chunks.take j).flatten.length < span whole.1 + prefixSize ∧
        span whole.1 + prefixSize ≤ (chunks.take (j + 1)).flatten.length) ∧
      (∀ rest, whole.2 = .incomplete rest →
        run.pushes = chunks.length ∧ run.last.pending = rest) := by
  obtain ⟨hframes, herror, hlast⟩ := pushAll_new_eq_parse limit chunks
  refine ⟨hframes, herror, ?_, ?_⟩
  · intro e hrefused
    have hindex := pushAll_pushes_of_refused (new limit) (waiting_new limit) chunks hrefused
    simpa only [new, List.nil_append] using hindex
  · intro rest hrest
    have hnone : ((new limit).pushAll chunks).error = none := by rw [herror, hrest]; rfl
    refine ⟨pushAll_pushes_of_error_eq_none _ _ hnone, ?_⟩
    rw [hlast, hrest]
    rfl

end FrameLink.Reassembler
