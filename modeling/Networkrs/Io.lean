import Networkrs.Lib.ByteOrder
import Networkrs.Lib.Collect
/-!
# Io — `std::io` errors, and `recv` on a netlink socket

A socket is what its successive `recv` calls return: datagrams, cut to the buffer they are read into, and failures.
`receive` retries an interrupted call and reports a closed socket; `receiveLoop` is the loop every receiver of the
library runs, and `follow` the same loop over the arrivals it sees.
-/
namespace Networkrs

open Machine Framing Collect

abbrev Bytes := List UInt8

abbrev Text := List Char

instance : Coe String Text := ⟨String.toList⟩

inductive ErrorKind where
  | notFound
  | connectionRefused
  | notConnected
  | addrNotAvailable
  | timedOut
  | interrupted
  | invalidInput
  | invalidData
  | writeZero
  | unexpectedEof
  | other
  deriving DecidableEq, Repr

/-- An `io::Error`: a raw OS error, or a kind with a message. -/
inductive IoError where
  | os (code : Int32)
  | custom (kind : ErrorKind) (message : Text)
  deriving DecidableEq, Repr

def IoError.textless : IoError → IoError
  | .os code => .os code
  | .custom kind _ => .custom kind []

abbrev IoResult (α : Type) := Outcome IoError α

/-- What one `recv` call returns. -/
inductive Recv where
  | datagram (bytes : Bytes)
  | failed (errno : Int32)
  deriving DecidableEq, Repr

/-- The `recv` calls still to be made on a socket. -/
abbrev Socket := List Recv

def eintr : Int32 := 4

def bufferSize : Nat := 64 * 1024

/-- One successful receive into a buffer of `size` bytes. -/
def receive (size : Nat) (closed : Text) : Socket → IoResult Bytes × Socket
  | [] => (.waiting, [])
  | .failed errno :: socket =>
    if errno = eintr then receive size closed socket else (.err (.os errno), socket)
  | .datagram bytes :: socket =>
    let received := bytes.take size
    if received.isEmpty then (.err (.custom .unexpectedEof closed), socket) else (.ok received, socket)

variable {σ ρ : Type}

theorem receive_shrinks (size : Nat) (closed : Text) : ∀ (socket rest : Socket) (bytes : Bytes),
    receive size closed socket = (.ok bytes, rest) → rest.length < socket.length
  | [], _, _, h => by cases h
  | .failed errno :: socket, rest, bytes, h => by
    simp only [receive] at h
    split at h
    · have := receive_shrinks size closed socket rest bytes h
      simp only [List.length_cons]
      omega
    · cases h
  | .datagram b :: socket, rest, bytes, h => by
    simp only [receive] at h
    split at h
    · cases h
    · cases h
      simp

/-- `loop { let received = receive(..)?; .. }`, with the unread rest of the socket. -/
def receiveLoop (size : Nat) (closed : Text) (onDatagram : σ → Bytes → Checked (Except IoError (Flow σ ρ))) (s : σ)
    (socket : Socket) : IoResult ρ × Socket :=
  match _h : receive size closed socket with
  | (.ok received, rest) =>
    match onDatagram s received with
    | .error p => (.panicked p, rest)
    | .ok (.error e) => (.err e, rest)
    | .ok (.ok (.stop r)) => (.ok r, rest)
    | .ok (.ok (.next s')) => receiveLoop size closed onDatagram s' rest
  | (.err e, rest) => (.err e, rest)
  | (.panicked p, rest) => (.panicked p, rest)
  | (.waiting, rest) => (.waiting, rest)
termination_by socket.length
decreasing_by exact receive_shrinks size closed socket rest received _h

/-! ## Arrivals -/

/-- What the receives of a loop see, in order: errors, and the bytes received. -/
def arrivals (size : Nat) (closed : Text) : Socket → List (Except IoError Bytes)
  | [] => []
  | .failed errno :: socket =>
    if errno = eintr then arrivals size closed socket else .error (.os errno) :: arrivals size closed socket
  | .datagram bytes :: socket =>
    let received := bytes.take size
    (if received.isEmpty then .error (.custom .unexpectedEof closed) else .ok received) :: arrivals size closed socket

def follow (onDatagram : σ → Bytes → Checked (Except IoError (Flow σ ρ))) :
    List (Except IoError Bytes) → σ → IoResult ρ
  | [], _ => .waiting
  | .error e :: _, _ => .err e
  | .ok received :: rest, s =>
    match onDatagram s received with
    | .error p => .panicked p
    | .ok (.error e) => .err e
    | .ok (.ok (.stop r)) => .ok r
    | .ok (.ok (.next s')) => follow onDatagram rest s'

section
variable (size : Nat) (closed : Text) (onDatagram : σ → Bytes → Checked (Except IoError (Flow σ ρ)))

theorem receiveLoop_eq (s : σ) (socket : Socket) :
    receiveLoop size closed onDatagram s socket =
      match receive size closed socket with
      | (.ok received, rest) =>
        match onDatagram s received with
        | .error p => (.panicked p, rest)
        | .ok (.error e) => (.err e, rest)
        | .ok (.ok (.stop r)) => (.ok r, rest)
        | .ok (.ok (.next s')) => receiveLoop size closed onDatagram s' rest
      | (.err e, rest) => (.err e, rest)
      | (.panicked p, rest) => (.panicked p, rest)
      | (.waiting, rest) => (.waiting, rest) := by
  conv => lhs; rw [receiveLoop]
  generalize receive size closed socket = received
  rcases received with ⟨outcome, rest⟩
  cases outcome <;> rfl

theorem receiveLoop_interrupted (s : σ) (socket : Socket) :
    receiveLoop size closed onDatagram s (.failed eintr :: socket) = receiveLoop size closed onDatagram s socket := by
  rw [receiveLoop_eq, receive, if_pos rfl, ← receiveLoop_eq]

theorem receiveLoop_failed (s : σ) {errno : Int32} (h : errno ≠ eintr) (socket : Socket) :
    receiveLoop size closed onDatagram s (.failed errno :: socket) = (.err (.os errno), socket) := by
  rw [receiveLoop_eq, receive, if_neg h]

theorem receiveLoop_closed (s : σ) {bytes : Bytes} (h : (bytes.take size).isEmpty = true) (socket : Socket) :
    receiveLoop size closed onDatagram s (.datagram bytes :: socket) =
      (.err (.custom .unexpectedEof closed), socket) := by
  rw [receiveLoop_eq, receive]
  simp only [h, if_true]

theorem receiveLoop_datagram (s : σ) {bytes : Bytes} (h : (bytes.take size).isEmpty = false) (socket : Socket) :
    receiveLoop size closed onDatagram s (.datagram bytes :: socket) =
      match onDatagram s (bytes.take size) with
      | .error p => (.panicked p, socket)
      | .ok (.error e) => (.err e, socket)
      | .ok (.ok (.stop r)) => (.ok r, socket)
      | .ok (.ok (.next s')) => receiveLoop size closed onDatagram s' socket := by
  rw [receiveLoop_eq, receive]
  simp only [h, Bool.false_eq_true, if_false]

/-- **The loop is the loop over its arrivals.** -/
theorem receiveLoop_eq_follow : ∀ (socket : Socket) (s : σ),
    (receiveLoop size closed onDatagram s socket).1 = follow onDatagram (arrivals size closed socket) s
  | [], s => by rw [receiveLoop_eq]; rfl
  | .failed errno :: socket, s => by
    by_cases h : errno = eintr
    · subst h
      rw [receiveLoop_interrupted, receiveLoop_eq_follow socket s, arrivals, if_pos rfl]
    · rw [receiveLoop_failed size closed onDatagram s h, arrivals, if_neg h]
      rfl
  | .datagram bytes :: socket, s => by
    cases h : (bytes.take size).isEmpty with
    | true =>
      rw [receiveLoop_closed size closed onDatagram s h]
      simp only [arrivals, h, if_true, follow]
    | false =>
      rw [receiveLoop_datagram size closed onDatagram s h]
      simp only [arrivals, h, Bool.false_eq_true, if_false, follow]
      cases onDatagram s (bytes.take size) with
      | error p => rfl
      | ok result =>
        cases result with
        | error e => rfl
        | ok flow =>
          cases flow with
          | stop r => rfl
          | next s' => exact receiveLoop_eq_follow socket s'

end

/-! ## Receivers that judge items -/

variable {ι τ : Type}

/-- A loop over the items of one datagram, as a datagram handler. -/
def ofScan : Checked (Flow σ (Except IoError ρ)) → Checked (Except IoError (Flow σ ρ))
  | .error p => .error p
  | .ok (.stop (.error e)) => .ok (.error e)
  | .ok (.stop (.ok r)) => .ok (.ok (.stop r))
  | .ok (.next s) => .ok (.ok (.next s))

/-- The items of a list of arrivals: the failures, and what the datagrams hold. -/
def streamItems (open_ : Bytes → List ι) (as : List (Except IoError Bytes)) : List (Except IoError ι) :=
  as.flatMap (fun a => match a with
    | .error e => [.error e]
    | .ok received => (open_ received).map .ok)

/-- A verdict on items, as a verdict on a stream with failures. -/
def judgeStream (judge : ι → Verdict IoError τ) : Except IoError ι → Verdict IoError τ
  | .error e => .reject e
  | .ok i => judge i

theorem streamItems_cons (open_ : Bytes → List ι) (a : Except IoError Bytes) (as : List (Except IoError Bytes)) :
    streamItems open_ (a :: as) =
      (match a with
       | .error e => [.error e]
       | .ok received => (open_ received).map .ok) ++ streamItems open_ as := rfl

theorem streamItems_append (open_ : Bytes → List ι) (as bs : List (Except IoError Bytes)) :
    streamItems open_ (as ++ bs) = streamItems open_ as ++ streamItems open_ bs :=
  List.flatMap_append

theorem scan_judgeStream (judge : ι → Verdict IoError τ) : ∀ (is : List ι) (held : List τ),
    scan (judgeStep (judgeStream judge)) (is.map .ok) held = scan (judgeStep judge) is held
  | [], _ => rfl
  | i :: is, held => by
    simp only [List.map_cons, scan, judgeStep, judgeStream]
    cases judge i with
    | keep records => exact scan_judgeStream judge is _
    | finish records => rfl
    | reject e => rfl
    | panic p => rfl

/-- **A loop that scans its datagrams with a verdict collects their items.** -/
theorem follow_eq_run (judge : ι → Verdict IoError τ) (open_ : Bytes → List ι) :
    ∀ (as : List (Except IoError Bytes)) (held : List τ),
      follow (fun held received => ofScan (scan (judgeStep judge) (open_ received) held)) as held =
        (run (judgeStream judge) (streamItems open_ as)).map (held ++ ·)
  | [], _ => rfl
  | .error e :: as, _ => rfl
  | .ok received :: as, held => by
    rw [streamItems_cons, ← resume_scan, scan_judgeStream, follow]
    cases scan (judgeStep judge) (open_ received) held with
    | error p => rfl
    | ok flow =>
      cases flow with
      | next held' => exact follow_eq_run judge open_ as held'
      | stop result => cases result <;> rfl

/-! ## Receivers that look for one value -/

/-- A loop that looks for a value, as one that collects the value it finds. -/
def collecting : Checked (Flow Unit (Except IoError τ)) → Checked (Flow (List τ) (Except IoError (List τ)))
  | .error p => .error p
  | .ok (.next ()) => .ok (.next [])
  | .ok (.stop (.error e)) => .ok (.stop (.error e))
  | .ok (.stop (.ok value)) => .ok (.stop (.ok [value]))

section
variable {step : Unit → ι → Checked (Flow Unit (Except IoError τ))} {judge : ι → Verdict IoError τ}
  (hstep : ∀ i, collecting (step () i) = judgeStep judge [] i)

include hstep

theorem scan_collecting : ∀ (is : List ι), collecting (scan step is ()) = scan (judgeStep judge) is []
  | [] => rfl
  | i :: is => by
    have hi := hstep i
    rw [scan, scan, ← hi]
    cases step () i with
    | error p => rfl
    | ok flow =>
      cases flow with
      | next u => exact scan_collecting is
      | stop result => cases result <;> rfl

/-- **A loop that looks for a value is the run that collects it.** -/
theorem follow_collecting (open_ : Bytes → List ι) : ∀ (as : List (Except IoError Bytes)),
    (follow (fun _ received => ofScan (scan step (open_ received) ())) as ()).map (fun value => [value]) =
      run (judgeStream judge) (streamItems open_ as)
  | [] => rfl
  | .error e :: as => rfl
  | .ok received :: as => by
    have ih := follow_collecting open_ as
    have hscan := scan_collecting hstep (open_ received)
    have hrun := follow_eq_run judge open_ (.ok received :: as) []
    rw [Outcome.map_nil_append] at hrun
    rw [← hrun, follow, follow, ← hscan]
    cases scan step (open_ received) () with
    | error p => rfl
    | ok flow =>
      cases flow with
      | next u =>
        have hrest := follow_eq_run judge open_ as []
        rw [Outcome.map_nil_append] at hrest
        exact ih.trans hrest.symm
      | stop result => cases result <;> rfl

end

/-! ## Endings of streams with failures -/

def streamEnding (ending : ι → Option (Ending IoError)) : Except IoError ι → Option (Ending IoError)
  | .error e => some (.failed e)
  | .ok i => ending i

def streamValues (values : ι → List τ) : Except IoError ι → List τ
  | .error _ => []
  | .ok i => values i

theorem judgeStream_verdictOf (ending : ι → Option (Ending IoError)) (values : ι → List τ) :
    judgeStream (verdictOf ending values) = verdictOf (streamEnding ending) (streamValues values) := by
  funext x
  cases x <;> rfl

/-- Items that do not end a run are no failures. -/
theorem eq_map_ok (ending : ι → Option (Ending IoError)) : ∀ (pre : List (Except IoError ι)),
    (∀ x ∈ pre, streamEnding ending x = none) → ∃ is : List ι, pre = is.map .ok ∧ ∀ i ∈ is, ending i = none
  | [], _ => ⟨[], rfl, fun _ h => by cases h⟩
  | .error e :: pre, h => by
    have := h _ List.mem_cons_self
    cases this
  | .ok i :: pre, h => by
    obtain ⟨is, rfl, his⟩ := eq_map_ok ending pre (fun x hx => h x (List.mem_cons_of_mem _ hx))
    refine ⟨i :: is, rfl, fun j hj => ?_⟩
    rcases List.mem_cons.1 hj with rfl | hj
    · exact h _ List.mem_cons_self
    · exact his j hj

/-- **A collection succeeds exactly when a complete end is the first end of its stream.** -/
theorem run_judgeStream_eq_ok_iff (ending : ι → Option (Ending IoError)) (values : ι → List τ)
    (stream : List (Except IoError ι)) (vs : List τ) :
    run (judgeStream (verdictOf ending values)) stream = .ok vs ↔
      ∃ (pre : List ι) (done : ι) (post : List (Except IoError ι)), stream = pre.map .ok ++ .ok done :: post ∧
        (∀ i ∈ pre, ending i = none) ∧
        ending done = some .complete ∧ vs = pre.flatMap values := by
  rw [judgeStream_verdictOf, run_verdictOf_eq_ok_iff]
  constructor
  · rintro ⟨pre, done, post, rfl, hpre, hdone, rfl⟩
    obtain ⟨is, rfl, his⟩ := eq_map_ok ending pre hpre
    cases done with
    | error e => cases hdone
    | ok d =>
      refine ⟨is, d, post, rfl, his, hdone, ?_⟩
      rw [List.flatMap_map]
      rfl
  · rintro ⟨pre, done, post, rfl, hpre, hdone, rfl⟩
    refine ⟨pre.map .ok, .ok done, post, rfl, fun x hx => ?_, hdone, ?_⟩
    · obtain ⟨i, hi, rfl⟩ := List.mem_map.1 hx
      exact hpre i hi
    · rw [List.flatMap_map]
      rfl

/-! ## Errors up to their text -/

def textlessStream (stream : List (Except IoError ι)) : List (Except IoError ι) :=
  stream.map (Except.mapError IoError.textless)

theorem arrivals_textless (size : Nat) (closed : Text) : ∀ (socket : Socket),
    textlessStream (arrivals size closed socket) = arrivals size [] socket
  | [] => rfl
  | .failed errno :: socket => by
    have ih := arrivals_textless size closed socket
    unfold arrivals
    split
    · exact ih
    · exact congrArg _ ih
  | .datagram bytes :: socket => by
    have ih := arrivals_textless size closed socket
    unfold arrivals
    dsimp only
    split <;> exact congrArg _ ih

theorem streamItems_textless (open_ : Bytes → List ι) : ∀ (as : List (Except IoError Bytes)),
    textlessStream (streamItems open_ as) = streamItems open_ (textlessStream as)
  | [] => rfl
  | a :: as => by
    have ih := streamItems_textless open_ as
    unfold textlessStream at ih ⊢
    rw [List.map_cons, streamItems_cons, streamItems_cons, List.map_append, ih]
    cases a with
    | error e => rfl
    | ok received => simp [Except.mapError, Function.comp_def]

/-- **A collection with its error texts left out** is the collection of the stream with its error texts left out. -/
theorem run_textless (judge : ι → Verdict IoError τ) (stream : List (Except IoError ι)) :
    (run (judgeStream judge) stream).mapErr IoError.textless =
      run (judgeStream (fun i => (judge i).mapErr IoError.textless)) (textlessStream stream) := by
  unfold textlessStream
  rw [run_mapErr, run_map]
  apply run_congr
  intro x hx
  cases x <;> rfl

end Networkrs
