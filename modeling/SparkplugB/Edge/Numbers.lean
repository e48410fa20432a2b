/-
# The sequence numbers of an edge

One counter numbers the messages of an edge, whatever publishes them, and an NBIRTH sets it back.
`position` reads off the journal where in its sequence the next message stands; the counter is
that position modulo 256, at every moment of every run.  A call that is refused or a command that is
debounced therefore takes no number: the next message would miss it.

Which messages carry a number at all is what `carries_seq` says of their types
(`published_carriesSeq`).
-/
import SparkplugB.Codec.Survival
import SparkplugB.Edge.Discipline

namespace SparkplugB

open Past

/-! ## 1. The counter -/

/-- How many messages, NDEATHs apart, were published from the latest NBIRTH on. -/
def position : List Entry → Nat
  | [] => 0
  | .publish message :: past =>
    if message.mark = .node .nBirth then 1
    else if message.mark = .node .nDeath then position past
    else position past + 1
  | _ :: past => position past

/-- The number a message must carry: none for an NDEATH, 0 for an NBIRTH, and else its position in
the sequence of the latest NBIRTH, modulo 256.  It is read off the journal and does not mention the
counter of the engine. -/
def dueNumber (m : Mark) (past : List Entry) : Option UInt8 :=
  if m = .node .nDeath then none
  else if m = .node .nBirth then some 0
  else some (UInt8.ofNat (position past))

/-- A published message carries the number it must carry, and the NDEATH of a will none. -/
def Numbered (e : Entry) (past : List Entry) : Prop :=
  (∀ message, e = .publish message → Carries message.payload (dueNumber message.mark past)) ∧
    ∀ opts will, e = .connect opts → opts.will = some will → Carries will.payload none

namespace EdgeNode

variable {S : Type}

/-- The invariant behind the numbers: all messages so far carry the number that was due, and the
counter `seq` of the engine stands at the one that is due next. -/
structure Counted (node : EdgeNode Recorder S) : Prop where
  numbered : Throughout Numbered node.transport.log
  counter : node.seq.val = UInt8.ofNat (position node.transport.log)

/-- An entry that is no publish. -/
theorem Counted.note {node : EdgeNode Recorder S} (h : node.Counted) {e : Entry}
    (he : ∀ message, e ≠ .publish message)
    (hwill : ∀ opts will, e = .connect opts → opts.will = some will → Carries will.payload none) :
    Counted { node with transport := node.transport.note e } where
  numbered := .cons ⟨fun message heq => absurd heq (he message), hwill⟩ h.numbered
  counter := by
    have hposition : position (e :: node.transport.log) = position node.transport.log := by
      cases e with
      | publish message => exact absurd rfl (he message)
      | _ => rfl
    rw [Recorder.note_log, hposition]
    exact h.counter

/-- A message that takes the next number. -/
theorem Counted.publish {node : EdgeNode Recorder S} (h : node.Counted)
    {message : OutboundMessage} (hbirth : message.mark ≠ .node .nBirth)
    (hdeath : message.mark ≠ .node .nDeath)
    (hcarries : Carries message.payload (some node.seq.val)) :
    Counted { node with
      transport := node.transport.note (.publish message)
      seq := node.seq.nextValue.2 } where
  numbered := by
    refine .cons ⟨fun message' heq => ?_, fun opts will heq => absurd heq (by simp)⟩ h.numbered
    obtain rfl := Entry.publish.inj heq
    rw [dueNumber, if_neg hdeath, if_neg hbirth, ← h.counter]
    exact hcarries
  counter := by
    show node.seq.val + 1 = UInt8.ofNat (position (.publish message :: node.transport.log))
    rw [position, if_neg hbirth, if_neg hdeath, h.counter, UInt8.ofNat_add]
    rfl

/-- An NDEATH takes no number. -/
theorem Counted.nodeDeath {node : EdgeNode Recorder S} (h : node.Counted)
    {message : OutboundMessage} (hdeath : message.mark = .node .nDeath)
    (hcarries : Carries message.payload none) :
    Counted { node with transport := node.transport.note (.publish message) } where
  numbered := by
    refine .cons ⟨fun message' heq => ?_, fun opts will heq => absurd heq (by simp)⟩ h.numbered
    obtain rfl := Entry.publish.inj heq
    rw [dueNumber, if_pos hdeath]
    exact hcarries
  counter := by
    show node.seq.val = UInt8.ofNat (position (.publish message :: node.transport.log))
    rw [position, hdeath, if_neg (by decide), if_pos rfl]
    exact h.counter

/-- An NBIRTH takes the number 0 and starts a new sequence. -/
theorem Counted.nodeBirth {node : EdgeNode Recorder S} (h : node.Counted)
    {message : OutboundMessage} (hbirth : message.mark = .node .nBirth)
    (hcarries : Carries message.payload (some 0)) :
    Counted { node with transport := node.transport.note (.publish message), seq := ⟨1⟩ } where
  numbered := by
    refine .cons ⟨fun message' heq => ?_, fun opts will heq => absurd heq (by simp)⟩ h.numbered
    obtain rfl := Entry.publish.inj heq
    rw [dueNumber, hbirth, if_neg (by decide), if_pos rfl]
    exact hcarries
  counter := by
    show (1 : UInt8) = UInt8.ofNat (position (.publish message :: node.transport.log))
    rw [position, if_pos hbirth]
    rfl

end EdgeNode

namespace Observed

variable {S : Type} [BdSeqStore S]

open EdgeNode

/-- Every elementary step of the edge keeps count. -/
theorem steady_counted :
    Steady (fun s : Observed S => s.engine.Counted) (fun _ _ => True) where
  tick h := h
  fields f passive h := by
    rename_i s
    obtain ⟨-, htransport, -, hseq, -⟩ := passive s.engine
    exact ⟨htransport ▸ h.numbered, by
      show (f s.engine).seq.val = UInt8.ofNat (position (f s.engine).transport.log)
      rw [hseq, htransport]
      exact h.counter⟩
  subscribe filter h := h.note (by simp) (by simp)
  handled message h := h.note (by simp) (by simp)
  disconnect h := h.note (by simp) (by simp)
  storeFails store bdSeq fails h := ⟨h.numbered, h.counter⟩
  connect load save h := by
    rename_i s bdSeq store store'
    have hset : (s.engine.withBdSeq store' bdSeq).Counted := ⟨h.numbered, h.counter⟩
    refine hset.note (by simp) fun opts will heq hwill => ?_
    obtain rfl := Entry.connect.inj heq
    obtain rfl := Option.some.inj hwill
    exact carries_encode _ _
  nodeBirth hok h := by
    rename_i s source
    have hmark := EdgeNode.mark_node s.engine.resetForBirth
      (m := s.engine.resetForBirth.nodeBirthMessage source s.ms) rfl ⟨rfl, by decide⟩
    have hnext := h.nodeBirth hmark (carries_encode _ _)
    exact ⟨hnext.numbered, hnext.counter⟩
  deviceBirth source device h := by
    rename_i s
    have hmark := EdgeNode.mark_device s.engine
      (m := s.engine.deviceBirthMessage source device s.ms) rfl rfl
    have hnext := h.publish (by rw [hmark]; simp) (by rw [hmark]; simp) (carries_encode _ _)
    exact ⟨hnext.numbered, hnext.counter⟩
  nodeDeath h := by
    rename_i s
    have hmark := EdgeNode.mark_node s.engine (m := s.engine.ndeathMessage s.ms) rfl
      ⟨rfl, by decide⟩
    exact h.nodeDeath hmark (carries_encode _ _)
  nodeData metrics h := by
    rename_i s
    have hmark := EdgeNode.mark_node s.engine (t := .nData)
      (m := s.engine.dataMessage (s.engine.nodeTopic .nData) metrics s.ms) rfl
      ⟨rfl, by decide⟩
    exact h.publish (by rw [hmark]; decide) (by rw [hmark]; decide) (carries_encode _ _)
  deviceData device metrics h := by
    rename_i s
    have hmark := EdgeNode.mark_device s.engine (t := .dData)
      (m := s.engine.dataMessage (s.engine.deviceTopic device .dData) metrics s.ms) rfl rfl
    exact h.publish (by rw [hmark]; simp) (by rw [hmark]; simp) (carries_encode _ _)
  deviceDeath device h := by
    rename_i s
    have hmark := EdgeNode.mark_device s.engine
      (m := s.engine.deviceDeathMessage device s.ms) rfl rfl
    exact h.publish (by rw [hmark]; simp) (by rw [hmark]; simp) (carries_encode _ _)

/-- **The sequence discipline of the edge.**  In every run of `EdgeNode`, whatever is called and
whatever the edge is handed, every message carries the number it must carry.  Nothing is asked of
the calls: a refused call and a debounced command take no number. -/
theorem log_numbered (config : EdgeNodeConfig) (store : S) (clock : Clock)
    (actions : List Action) :
    Throughout Numbered
      (Machine.run perform (start config store clock) actions).engine.transport.log := by
  have hstart : (start config store clock).engine.Counted := ⟨.nil, rfl⟩
  have hall := steady_counted.run (start config store clock) actions
    (Machine.always_of_forall (fun _ _ _ _ _ => trivial) _ _) hstart
  exact hall.numbered

end Observed

/-! ## 2. Types that carry a number -/

/-- The message type a mark stands for. -/
def Mark.type? : Mark → Option MessageType
  | .node ty | .device _ ty => some ty
  | _ => none

/-- A published message has a type, and carries a number exactly if `carries_seq` holds of it. -/
def Entry.Typed (e : Entry) : Prop :=
  ∀ message, e = .publish message → ∃ ty seq, message.mark.type? = some ty ∧
    Carries message.payload seq ∧ seq.isSome = ty.carriesSeq

/-- An entry that publishes nothing has no type. -/
theorem Entry.typed_of_ne {e : Entry} (he : ∀ message, e ≠ .publish message) : e.Typed :=
  fun message heq => absurd heq (he message)

theorem Entry.typed_publish {message : OutboundMessage} {mark : Mark} {ty : MessageType}
    {p : Payload} {o : EncodeOptions} (hmark : message.mark = mark) (hty : mark.type? = some ty)
    (hpayload : message.payload = encode p o) (hseq : p.seq.isSome = ty.carriesSeq) :
    (Entry.publish message).Typed := by
  intro message' heq
  obtain rfl := Entry.publish.inj heq
  exact ⟨ty, p.seq, hmark ▸ hty, hpayload ▸ carries_encode p o, hseq⟩

namespace Observed

variable {S : Type} [BdSeqStore S]

/-- Every elementary step of the edge publishes such messages. -/
theorem steady_typed :
    Steady (fun s : Observed S => ∀ e ∈ s.engine.transport.log, e.Typed) (fun _ _ => True) where
  tick h := h
  fields f passive h := by
    rename_i s
    obtain ⟨-, htransport, -⟩ := passive s.engine
    show ∀ e ∈ (f s.engine).transport.log, e.Typed
    exact htransport ▸ h
  subscribe filter h := List.forall_mem_cons.mpr ⟨Entry.typed_of_ne (by simp), h⟩
  handled message h := List.forall_mem_cons.mpr ⟨Entry.typed_of_ne (by simp), h⟩
  disconnect h := List.forall_mem_cons.mpr ⟨Entry.typed_of_ne (by simp), h⟩
  storeFails store bdSeq fails h := h
  connect load save h := List.forall_mem_cons.mpr ⟨Entry.typed_of_ne (by simp), h⟩
  nodeBirth hok h := by
    rename_i s source
    refine List.forall_mem_cons.mpr ⟨Entry.typed_publish (EdgeNode.mark_node
      s.engine.resetForBirth (m := s.engine.resetForBirth.nodeBirthMessage source s.ms) rfl
      ⟨rfl, by decide⟩) rfl rfl rfl, h⟩
  deviceBirth source device h := by
    rename_i s
    exact List.forall_mem_cons.mpr ⟨Entry.typed_publish (EdgeNode.mark_device s.engine
      (m := s.engine.deviceBirthMessage source device s.ms) rfl rfl) rfl rfl rfl, h⟩
  nodeDeath h := by
    rename_i s
    exact List.forall_mem_cons.mpr ⟨Entry.typed_publish (EdgeNode.mark_node s.engine
      (m := s.engine.ndeathMessage s.ms) rfl ⟨rfl, by decide⟩) rfl rfl rfl, h⟩
  nodeData metrics h := by
    rename_i s
    exact List.forall_mem_cons.mpr ⟨Entry.typed_publish (EdgeNode.mark_node s.engine (t := .nData)
      (m := s.engine.dataMessage (s.engine.nodeTopic .nData) metrics s.ms) rfl
      ⟨rfl, by decide⟩) rfl rfl rfl, h⟩
  deviceData device metrics h := by
    rename_i s
    exact List.forall_mem_cons.mpr ⟨Entry.typed_publish (EdgeNode.mark_device s.engine
      (t := .dData) (m := s.engine.dataMessage (s.engine.deviceTopic device .dData) metrics s.ms)
      rfl rfl) rfl rfl rfl, h⟩
  deviceDeath device h := by
    rename_i s
    exact List.forall_mem_cons.mpr ⟨Entry.typed_publish (EdgeNode.mark_device s.engine
      (m := s.engine.deviceDeathMessage device s.ms) rfl rfl) rfl rfl rfl, h⟩

/-- **Which messages carry a number.**  In every run each message that the edge publishes carries one
exactly if `carries_seq` says so of its type: all but the NDEATH. -/
theorem published_carriesSeq (config : EdgeNodeConfig) (store : S) (clock : Clock)
    (actions : List Action) :
    ∀ message, .publish message ∈
        (Machine.run perform (start config store clock) actions).engine.transport.log →
      ∃ ty seq, message.mark.type? = some ty ∧ Carries message.payload seq ∧
        seq.isSome = ty.carriesSeq := by
  intro message hmem
  have hall := steady_typed.run (start config store clock) actions
    (Machine.always_of_forall (fun _ _ _ _ _ => trivial) _ _)
    (fun e he => absurd he List.not_mem_nil)
  exact hall _ hmem message rfl

end Observed

end SparkplugB
