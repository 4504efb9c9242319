import Mathlib.Data.List.Induction
import Networkrs.GenlClient
/-!
# Correlation — replies and the requests they belong to

The socket of a client outlives its requests: datagrams that a failed request did not read stay in it.  A dump passes
over the messages of other requests, so it is not disturbed; a request that is no dump returns after the first datagram
it reads, whichever request that belongs to.  Over a run, unread datagrams belong to earlier requests
(`unread_after`), and a result is that of the request alone as long as only dumps are sent while datagrams are unread,
and only well-formed datagrams are (`results_depend_on_own_replies`).
-/
namespace Networkrs

open Machine Framing Collect

variable (host : Host)

/-- An item that is no message with another sequence number. -/
def carriesSequence (sequence : UInt32) : MessageItem → Bool
  | .fault _ => true
  | .record header _ => header.sequence = sequence

/-- **A reply to the request with the given sequence number**: its messages carry it. -/
def isReply (sequence : UInt32) : Recv → Bool
  | .failed _ => true
  | .datagram bytes => (items (messageFormat host) (bytes.take bufferSize)).all (carriesSequence sequence)

def isMessage : MessageItem → Bool
  | .fault _ => false
  | .record _ _ => true

/-- **A well-formed datagram**: not empty, and complete messages to its end. -/
def isWellFormed : Recv → Bool
  | .failed _ => false
  | .datagram bytes =>
    !(bytes.take bufferSize).isEmpty && (items (messageFormat host) (bytes.take bufferSize)).all isMessage

def Client.after (client : Client) (xs : List Exchange) : Client :=
  xs.foldl (fun client x => (client.request host x).2) client

/-! ## What a receive loop leaves unread -/

theorem receive_suffix (size : Nat) (closed : Text) : ∀ (socket : Socket), (receive size closed socket).2 <:+ socket
  | [] => List.suffix_refl []
  | .failed errno :: socket => by
    rw [receive]
    split
    · exact (receive_suffix size closed socket).trans (List.suffix_cons _ _)
    · exact List.suffix_cons _ _
  | .datagram bytes :: socket => by
    rw [receive]
    split <;> exact List.suffix_cons _ _

theorem receiveLoop_suffix {σ ρ : Type} (size : Nat) (closed : Text)
    (onDatagram : σ → Bytes → Checked (Except IoError (Flow σ ρ))) (s : σ) (socket : Socket) :
    (receiveLoop size closed onDatagram s socket).2 <:+ socket := by
  have hsuffix := receive_suffix size closed socket
  rw [receiveLoop_eq]
  cases hreceive : receive size closed socket with
  | mk outcome rest =>
    rw [hreceive] at hsuffix
    cases outcome with
    | err e => exact hsuffix
    | panicked p => exact hsuffix
    | waiting => exact hsuffix
    | ok bytes =>
      have hshrinks := receive_shrinks size closed socket rest bytes hreceive
      dsimp only
      split
      · exact hsuffix
      · exact hsuffix
      · exact hsuffix
      · rename_i s' _
        exact (receiveLoop_suffix size closed onDatagram s' rest).trans hsuffix
termination_by socket.length

/-! ## One request -/

theorem request_familyId (client : Client) (x : Exchange) : (client.request host x).2.familyId = client.familyId := by
  unfold Client.request
  cases sendMessage x.sent (client.requestMessage host x) <;> rfl

theorem request_sequence (client : Client) (x : Exchange) :
    (client.request host x).2.sequence = client.sequence + 1 := by
  unfold Client.request
  cases sendMessage x.sent (client.requestMessage host x) <;> rfl

/-- What a request leaves unread was unread before it, or is a reply to it. -/
theorem mem_request_socket {client : Client} {x : Exchange} {r : Recv} (h : r ∈ (client.request host x).2.socket) :
    r ∈ client.socket ∨ r ∈ x.replies := by
  unfold Client.request at h
  cases hsend : sendMessage x.sent (client.requestMessage host x) with
  | error e =>
    rw [hsend] at h
    exact List.mem_append.1 h
  | ok u =>
    rw [hsend] at h
    have hsuffix := receiveLoop_suffix bufferSize genericClosed
      (requestDatagram host client.familyId (client.sequence + 1) x.dump) [] (client.socket ++ x.replies)
    exact List.mem_append.1 (hsuffix.subset h)

/-- A dump passes over a datagram of another request. -/
theorem replyVerdict_of_other (familyId : UInt16) {sequence other : UInt32} {bytes : Bytes} (hne : other ≠ sequence)
    (h : (items (messageFormat host) bytes).all (carriesSequence other) = true)
    (hmessages : (items (messageFormat host) bytes).all isMessage = true) :
    replyVerdict host familyId sequence true bytes = .keep [] := by
  have hsequence : ∀ i ∈ items (messageFormat host) bytes,
      ∃ header message, i = .record header message ∧ header.sequence ≠ sequence := by
    intro i hi
    have hcarries := List.all_eq_true.1 h i hi
    have hmessage := List.all_eq_true.1 hmessages i hi
    cases i with
    | fault f => cases hmessage
    | record header message =>
      have : header.sequence = other := by simpa [carriesSequence] using hcarries
      exact ⟨header, message, rfl, by rw [this]; exact hne⟩
  have hnone : ∀ i ∈ items (messageFormat host) bytes, genericEnding host familyId sequence i = none := by
    intro i hi
    obtain ⟨header, message, rfl, hseq⟩ := hsequence i hi
    simp [genericEnding, hseq]
  have hdone : (items (messageFormat host) bytes).any (isDone sequence) = false := by
    rw [List.any_eq_false]
    intro i hi
    obtain ⟨header, message, rfl, hseq⟩ := hsequence i hi
    simp [isDone, hseq]
  have hvalues : (items (messageFormat host) bytes).flatMap (genericValues host familyId sequence) = [] := by
    rw [List.flatMap_eq_nil_iff]
    intro i hi
    obtain ⟨header, message, rfl, hseq⟩ := hsequence i hi
    simp [genericValues, hseq]
  rw [replyVerdict_of_none host true hnone, hdone, hvalues]
  rfl

theorem arrivals_append (size : Nat) (closed : Text) : ∀ (socket rest : Socket),
    arrivals size closed (socket ++ rest) = arrivals size closed socket ++ arrivals size closed rest
  | [], _ => rfl
  | .failed errno :: socket, rest => by
    rw [List.cons_append, arrivals, arrivals, arrivals_append size closed socket rest]
    split <;> rfl
  | .datagram bytes :: socket, rest => by
    rw [List.cons_append, arrivals, arrivals, arrivals_append size closed socket rest]
    rfl

/-- The arrivals of unread datagrams of other requests change no dump. -/
theorem judge_of_other (familyId : UInt16) (sequence : UInt32) {unread : Socket}
    (h : ∀ r ∈ unread, isWellFormed host r = true ∧ ∃ other, other ≠ sequence ∧ isReply host other r = true) :
    ∀ a ∈ arrivals bufferSize genericClosed unread,
      judgeStream (replyVerdict host familyId sequence true) a = .keep [] := by
  induction unread with
  | nil =>
    intro a ha
    cases ha
  | cons r unread ih =>
    intro a ha
    have ih := ih (fun r' hr' => h r' (List.mem_cons_of_mem r hr'))
    obtain ⟨hwellFormed, other, hne, hreply⟩ := h r List.mem_cons_self
    cases r with
    | failed errno => cases hwellFormed
    | datagram bytes =>
      simp only [isWellFormed, Bool.and_eq_true, Bool.not_eq_true'] at hwellFormed
      simp only [arrivals, hwellFormed.1, Bool.false_eq_true, if_false] at ha
      rcases List.mem_cons.1 ha with rfl | ha
      · exact replyVerdict_of_other host familyId hne hreply hwellFormed.2
      · exact ih a ha

/-- **A dump is not disturbed by well-formed datagrams of other requests.** -/
theorem receiveReplies_of_other (familyId : UInt16) (sequence : UInt32) {unread : Socket} (replies : Socket)
    (h : ∀ r ∈ unread, isWellFormed host r = true ∧ ∃ other, other ≠ sequence ∧ isReply host other r = true) :
    (receiveReplies host familyId sequence true (unread ++ replies)).1 =
      (receiveReplies host familyId sequence true replies).1 := by
  have hkeep := judge_of_other host familyId sequence h
  have hkeeps : ∀ a ∈ arrivals bufferSize genericClosed unread,
      (judgeStream (replyVerdict host familyId sequence true) a).keeps = true := fun a ha => by
    rw [hkeep a ha]
    rfl
  have hkept : kept (judgeStream (replyVerdict host familyId sequence true))
      (arrivals bufferSize genericClosed unread) = [] := by
    unfold kept
    rw [List.flatMap_eq_nil_iff]
    intro a ha
    rw [hkeep a ha]
    rfl
  rw [receiveReplies_eq_run, receiveReplies_eq_run, arrivals_append, run_append_of_keeps _ _ _ hkeeps, hkept,
    Outcome.map_nil_append]

/-! ## Runs of requests -/

theorem after_familyId : ∀ (xs : List Exchange) (client : Client), (client.after host xs).familyId = client.familyId
  | [], _ => rfl
  | x :: xs, client => by
    have ih := after_familyId xs (client.request host x).2
    rw [request_familyId] at ih
    exact ih

theorem after_sequence : ∀ (xs : List Exchange) (client : Client),
    (client.after host xs).sequence = client.sequence + UInt32.ofNat xs.length
  | [], client => by simp [Client.after]
  | x :: xs, client => by
    have ih := after_sequence xs (client.request host x).2
    rw [request_sequence, UInt32.add_assoc] at ih
    have hlength : 1 + UInt32.ofNat xs.length = UInt32.ofNat (x :: xs).length := by
      rw [List.length_cons, Nat.add_comm, UInt32.ofNat_add]
      rfl
    rw [hlength] at ih
    exact ih

theorem after_concat (client : Client) (xs : List Exchange) (x : Exchange) :
    client.after host (xs ++ [x]) = ((client.after host xs).request host x).2 := by
  simp [Client.after]

/-- The replies of every request of a run carry its sequence number. -/
def RepliesCorrelate (sequence : UInt32) (xs : List Exchange) : Prop :=
  ∀ pre x post, xs = pre ++ x :: post →
    ∀ r ∈ x.replies, isReply host (sequence + UInt32.ofNat (pre.length + 1)) r = true

/-- **Unread datagrams belong to earlier requests.** -/
theorem unread_after (familyId : UInt16) (sequence : UInt32) (xs : List Exchange)
    (hreplies : RepliesCorrelate host sequence xs) : ∀ (pre post : List Exchange), xs = pre ++ post →
    ∀ r ∈ ((Client.mk [] familyId sequence).after host pre).socket,
      ∃ k, 1 ≤ k ∧ k ≤ pre.length ∧ isReply host (sequence + UInt32.ofNat k) r = true := by
  intro pre
  induction pre using List.reverseRecOn with
  | nil =>
    intro post _ r hr
    cases hr
  | append_singleton pre x ih =>
    intro post hxs r hr
    rw [List.append_assoc, List.singleton_append] at hxs
    rw [after_concat] at hr
    rw [List.length_append, List.length_singleton]
    rcases mem_request_socket host hr with hold | hnew
    · obtain ⟨k, hk, hle, hreply⟩ := ih (x :: post) hxs r hold
      exact ⟨k, hk, by omega, hreply⟩
    · exact ⟨pre.length + 1, by omega, by omega, hreplies pre x post hxs r hnew⟩

/-- Sequence numbers do not repeat within a turn of the counter. -/
theorem sequence_ne (sequence : UInt32) {k n : Nat} (hk : 1 ≤ k) (hle : k ≤ n) (hn : n < 2 ^ 32) :
    sequence + UInt32.ofNat k ≠ sequence + UInt32.ofNat (n + 1) := by
  intro h
  have heq : UInt32.ofNat k = UInt32.ofNat (n + 1) := (UInt32.add_right_inj sequence).1 h
  have hnat := congrArg UInt32.toNat heq
  rw [UInt32.toNat_ofNat', UInt32.toNat_ofNat'] at hnat
  omega

/-- **A request that nothing unread disturbs**: nothing is unread, or the request cannot be sent, or it is a dump, all
that is unread is well formed, and the sequence numbers have not turned around since the client was opened. -/
def Undisturbed (familyId : UInt16) (sequence : UInt32) (pre : List Exchange) (x : Exchange) : Prop :=
  let client := (Client.mk [] familyId sequence).after host pre
  client.socket = [] ∨ (∃ e, sendMessage x.sent (client.requestMessage host x) = .error e) ∨
    x.dump = true ∧ pre.length < 2 ^ 32 ∧ ∀ r ∈ client.socket, isWellFormed host r = true

/-- **Every result depends on the replies to its own request alone**, in a run whose replies carry the sequence numbers
of their requests, and whose requests are undisturbed. -/
theorem results_depend_on_own_replies (familyId : UInt16) (sequence : UInt32) (xs : List Exchange)
    (hreplies : RepliesCorrelate host sequence xs)
    (hundisturbed : ∀ pre x post, xs = pre ++ x :: post → Undisturbed host familyId sequence pre x) :
    ∀ pre x post, xs = pre ++ x :: post →
      (((Client.mk [] familyId sequence).after host pre).request host x).1 =
        ((Client.mk [] familyId (sequence + UInt32.ofNat pre.length)).request host x).1 := by
  intro pre x post hxs
  have hfamily := after_familyId host pre (Client.mk [] familyId sequence)
  have hsequence := after_sequence host pre (Client.mk [] familyId sequence)
  have hold := unread_after host familyId sequence xs hreplies pre (x :: post) hxs
  have hcase := hundisturbed pre x post hxs
  unfold Undisturbed at hcase
  generalize (Client.mk [] familyId sequence).after host pre = client at *
  obtain ⟨unread, familyId', sequence'⟩ := client
  obtain rfl : familyId' = familyId := hfamily
  obtain rfl : sequence' = sequence + UInt32.ofNat pre.length := hsequence
  rcases hcase with hempty | ⟨e, hunsent⟩ | ⟨hdump, hpre, hwellFormed⟩
  · obtain rfl : unread = [] := hempty
    rfl
  · unfold Client.request
    rw [hunsent]
    have hunsent' : sendMessage x.sent
        ((Client.mk [] familyId' (sequence + UInt32.ofNat pre.length)).requestMessage host x) = .error e := hunsent
    rw [hunsent']
  · have hnext : sequence + UInt32.ofNat pre.length + 1 = sequence + UInt32.ofNat (pre.length + 1) := by
      rw [UInt32.add_assoc, UInt32.ofNat_add]
      rfl
    have hother : ∀ r ∈ unread, isWellFormed host r = true ∧
        ∃ other, other ≠ sequence + UInt32.ofNat pre.length + 1 ∧ isReply host other r = true := by
      intro r hr
      obtain ⟨k, hk, hle, hreply⟩ := hold r hr
      refine ⟨hwellFormed r hr, _, ?_, hreply⟩
      rw [hnext]
      exact sequence_ne sequence hk hle hpre
    have hsame := receiveReplies_of_other host familyId' (sequence + UInt32.ofNat pre.length + 1) x.replies hother
    unfold Client.request Client.requestMessage
    simp only [hdump, if_true, List.nil_append]
    split
    · rfl
    · exact hsame

def familyMessage (sequence : UInt32) : Bytes :=
  buildMessage hostX86 0x1c sequence 1 1 0 []

/-- A dump that fails in its first datagram, with a second one unread. -/
def failingDump : Exchange where
  command := 1
  version := 1
  dump := true
  attributes := []
  sent := .bytes 20
  replies :=
    [.datagram (MessageHeader.bytes hostX86 ⟨20, nlmsgError, 0, 2, 0⟩ ++ [0xea, 0xff, 0xff, 0xff]),
      .datagram (MessageHeader.bytes hostX86 ⟨16, nlmsgDone, 0, 2, 0⟩)]

def laterDump : Exchange where
  command := 1
  version := 1
  dump := true
  attributes := []
  sent := .bytes 20
  replies := [.datagram (familyMessage 3), .datagram (MessageHeader.bytes hostX86 ⟨16, nlmsgDone, 0, 3, 0⟩)]

def singleRequest : Exchange where
  command := 1
  version := 1
  dump := false
  attributes := []
  sent := .bytes 20
  replies := [.datagram (familyMessage 3)]

theorem split_pair {x y z : Exchange} {pre post : List Exchange} (h : [x, y] = pre ++ z :: post) :
    pre = [] ∧ z = x ∨ pre = [x] ∧ z = y := by
  rcases pre with _ | ⟨a, _ | ⟨b, pre⟩⟩
  · simp only [List.nil_append, List.cons.injEq] at h
    exact Or.inl ⟨rfl, h.1.symm⟩
  · simp only [List.cons_append, List.nil_append, List.cons.injEq] at h
    exact Or.inr ⟨by rw [h.1], h.2.1.symm⟩
  · simp at h

/-- A dump after a failed one returns its own message. -/
theorem results_depend_on_own_replies_pair :
    (((Client.mk [] 0x1c 1).after hostX86 [failingDump]).request hostX86 laterDump).1 =
      ((Client.mk [] 0x1c (1 + UInt32.ofNat 1)).request hostX86 laterDump).1 := by
  refine results_depend_on_own_replies hostX86 0x1c 1 [failingDump, laterDump] ?_ ?_ [failingDump] laterDump [] rfl
  · intro pre x post h
    rcases split_pair h with ⟨rfl, rfl⟩ | ⟨rfl, rfl⟩ <;> decide +kernel
  · intro pre x post h
    rcases split_pair h with ⟨rfl, rfl⟩ | ⟨rfl, rfl⟩
    · exact Or.inl rfl
    · exact Or.inr (Or.inr ⟨rfl, by decide, by decide +kernel⟩)

/-- **An unread datagram answers the wrong request**: the replies correlate, but the single request after a failed dump
returns an empty list instead of its own reply. -/
theorem unread_datagram_answers_request :
    RepliesCorrelate hostX86 1 [failingDump, singleRequest] ∧
    ((Client.mk [] 0x1c 1).request hostX86 failingDump).1 = .err (.os 22) ∧
    (((Client.mk [] 0x1c 1).after hostX86 [failingDump]).request hostX86 singleRequest).1 = .ok [] ∧
    ((Client.mk [] 0x1c 2).request hostX86 singleRequest).1 = .ok [{ command := 1, attributes := [] }] := by
  refine ⟨?_, by decide +kernel, by decide +kernel, by decide +kernel⟩
  intro pre x post h
  rcases split_pair h with ⟨rfl, rfl⟩ | ⟨rfl, rfl⟩ <;> decide +kernel

end Networkrs
