import NatsRequeue.Flatbuf.Envelope
import NatsRequeue.BatchedWriter
import NatsRequeue.Queue.Key

/-!
# One message through the ingress path

A worker that takes `msg` from `natsMsgCh` runs `Conn.processIngressMessage(wb, msg)`: it views the
envelope in `msg.Data` (twice), builds the store key, and hands key, bytes and the completion
callback `processIngressMessageCallback(msg)` to its batched writer's `Set`.  The callback runs when
the commit carrying the key completes.  Both read `msg.Data` through the generated accessors, with no
verification of the buffer, so each is an `Option`: `none` is a panic in the consumer goroutine.

* `ingressKey_not_messageKey`: the key is the envelope's `original_subject`, a `'.'`, and the 27
  base62 characters of a fresh ksuid; and a key of that shape is never the `Bytes()` of a queue
  message key, of any queue: the byte 21 from the end is a base62 character there and `'.'` in a
  message key (`ksuid_key_ne_messageKey`).  The queue `key.go` stores messages under, and the
  envelope's `queue_name`, play no part.
* `processIngressMessageCallback_eq`: the callback reads the payload (once more on a commit error,
  for the log) and then acknowledges the message, **whatever the commit's outcome**; it never calls
  the write-error hook.
* `Readable` is the condition for the ingress path not to panic (`ingressKey_isSome`), and every
  envelope the builder produces is readable (`readable_of_bytes`); a buffer of fewer than four bytes
  is not (`not_readable_of_short`).
* `applyOptions_ofPackage`: the options the package defines never make `Connect`'s option loop
  fail, so `Connect` returns what `opts.Connect()` returns; and the hook the service runs with is
  the last `BadgerWriteMsgErr` option's; `GetDefaultOptions` sets none.
* `onNotices_answersFor`: a worker answers for the callbacks its writer fires and, when the hook
  is set, for the writes `Set` refuses; without the hook a refused write is only logged.
-/

set_option autoImplicit false

namespace NatsRequeue

open Flatbuf

/-- `DefaultNumConcurrentBatchTransactions`: the number of consumer goroutines, each with its own
batched writer. -/
def defaultNumConcurrentBatchTransactions : Nat := 4

/-- A `*nats.Msg`, as far as the ingress path reads it. -/
structure Msg where
  subject : List Byte
  reply : List Byte
  data : List Byte
  deriving DecidableEq, Repr

/-- A character of the alphabet `0-9A-Za-z` that ksuid's `String()` encodes in. -/
def isBase62 (c : Byte) : Bool :=
  (48 ≤ c.val && c.val ≤ 57) || (65 ≤ c.val && c.val ≤ 90) || (97 ≤ c.val && c.val ≤ 122)

/-- `ksuid.New().String()`: a ksuid's 20 bytes in base62, always 27 characters. -/
structure Ksuid where
  chars : List Byte
  length_eq : chars.length = 27
  base62 : ∀ c ∈ chars, isBase62 c = true

/-- `ksuid.Nil.String()`. -/
def Ksuid.nil : Ksuid := ⟨List.replicate 27 48, rfl, fun c hc => by rw [List.eq_of_mem_replicate hc]; rfl⟩

/-- What the ingress path does that a producer or the operator can see. -/
inductive Effect
  /-- `msg.Respond(nil)`: an empty reply published on `msg.Reply`, the producer's acknowledgement.
  Published once the connection is closed (`Service.run_closeFlush_acks_on_closedConn`), it is
  not delivered: `Respond` returns an error, which the callback only logs. -/
  | respond (msg : Msg)
  /-- `Opts.BadgerWriteMsgErr(msg, err)`, the operator's write-error hook. -/
  | badgerWriteMsgErr (msg : Msg) (err : SetError)
  deriving DecidableEq, Repr

/-- The message an effect answers for. -/
def Effect.msg : Effect → Msg
  | .respond msg => msg
  | .badgerWriteMsgErr msg _ => msg

/-- The options the ingress path reads: whether `BadgerWriteMsgErr` is set. -/
structure Options where
  badgerWriteMsgErr : Bool

/-! ## `Connect`'s options -/

/-- `GetDefaultOptions()`: no write-error hook. -/
def getDefaultOptions : Options := ⟨false⟩

/-- An `Option` the package defines: `BadgerWriteMsgErr(cb)`, with `cb` set or `nil`, or one of
the others, each of which sets a field no modelled function reads. -/
inductive ConnOption
  | connectContext
  | natsServers
  | natsSubject
  | natsQueueName
  | natsOptions
  | natsConnectionError
  | badgerDataPath
  | badgerWriteMsgErr (cb : Bool)
  deriving DecidableEq, Repr

/-- The function on the options an `Option` is: every one sets its field and returns `nil`. -/
def ConnOption.apply : ConnOption → Options → Except String Options
  | .badgerWriteMsgErr cb, o => .ok { o with badgerWriteMsgErr := cb }
  | _, o => .ok o

/-- Whether an option sets the write-error hook, and to what. -/
def ConnOption.hook : ConnOption → Option Bool
  | .badgerWriteMsgErr cb => some cb
  | _ => none

/-- The option loop of `Connect(options...)`: the options that are not `nil` applied in turn over
the defaults, or the first error one returns.  `Connect` then returns `opts.Connect()`, which is
the supervisor's `Connect` (`Supervisor`) and can fail. -/
def applyOptions (options : List (Option (Options → Except String Options))) :
    Except String Options :=
  options.reduceOption.foldlM (fun o opt => opt o) getDefaultOptions

theorem foldlM_apply (o : Options) (options : List ConnOption) :
    options.foldlM (fun o opt => opt.apply o) o =
      .ok ⟨((options.filterMap ConnOption.hook).getLast?).getD o.badgerWriteMsgErr⟩ := by
  induction options generalizing o with
  | nil => rfl
  | cons opt options ih =>
    rw [List.foldlM_cons]
    cases opt
    case badgerWriteMsgErr cb =>
      simpa [ConnOption.hook, List.getLast?_cons] using ih ⟨cb⟩
    all_goals exact ih o

/-- **The package's options never make `Connect`'s option loop fail, and the last
`BadgerWriteMsgErr` wins**: without one, the service runs with no write-error hook. -/
theorem applyOptions_ofPackage (options : List (Option ConnOption)) :
    applyOptions (options.map (Option.map ConnOption.apply)) =
      .ok ⟨((options.reduceOption.filterMap ConnOption.hook).getLast?).getD false⟩ := by
  rw [applyOptions, List.reduceOption_map, List.foldlM_map]
  exact foldlM_apply getDefaultOptions _

/-! ## The completion callback -/

/-- `processIngressMessageCallback(msg)` applied to the commit's outcome `err`: view the envelope,
log the payload (on an error, and again in the debug line: Go evaluates the argument whether or not
the level is enabled), then acknowledge.  A failed `Respond` is only logged, with the payload read
once more, which reads what the debug line read. -/
def processIngressMessageCallback (msg : Msg) (err : Option CommitError) : Option (List Effect) := do
  let fb ← getRootAsRequeueMessage msg.data
  if err.isSome then
    discard <| RequeueMessage.originalPayloadBytes fb
  discard <| RequeueMessage.originalPayloadBytes fb
  pure [.respond msg]

/-- **The callback acknowledges whatever the commit's outcome**: its only effect is the reply,
and it panics only where the payload cannot be read. -/
theorem processIngressMessageCallback_eq (msg : Msg) (err : Option CommitError) :
    processIngressMessageCallback msg err =
      ((getRootAsRequeueMessage msg.data).bind RequeueMessage.originalPayloadBytes).map
        fun _ => [.respond msg] := by
  rcases hr : getRootAsRequeueMessage msg.data with _ | fb
  · simp [processIngressMessageCallback, hr]
  · rcases hp : RequeueMessage.originalPayloadBytes fb with _ | p <;> cases err <;>
      simp [processIngressMessageCallback, hr, hp, discard, Functor.mapConst]

/-! ## The key -/

/-- The key `processIngressMessage` builds, after reading the payload for its debug line:
`fmt.Sprintf("%s.%s", string(GetRootAsRequeueMessage(msg.Data, 0).OriginalSubject()),
ksuid.New().String())`, with `id` the ksuid drawn. -/
def ingressKey (msg : Msg) (id : Ksuid) : Option (List Byte) := do
  let fb ← getRootAsRequeueMessage msg.data
  discard <| RequeueMessage.originalPayloadBytes fb
  let fb' ← getRootAsRequeueMessage msg.data
  let subject ← RequeueMessage.originalSubject fb'
  pure (subject ++ str "." ++ id.chars)

/-- Every read the ingress path makes of `msg.Data` stays within it. -/
def Readable (data : List Byte) : Bool :=
  match getRootAsRequeueMessage data with
  | some fb =>
    (RequeueMessage.originalPayloadBytes fb).isSome && (RequeueMessage.originalSubject fb).isSome
  | none => false

/-- **The ingress path panics exactly on unreadable bytes.** -/
theorem ingressKey_isSome (msg : Msg) (id : Ksuid) :
    (ingressKey msg id).isSome = Readable msg.data := by
  rcases hr : getRootAsRequeueMessage msg.data with _ | fb
  · simp [ingressKey, Readable, hr]
  · rcases hp : RequeueMessage.originalPayloadBytes fb with _ | p <;>
      rcases hs : RequeueMessage.originalSubject fb with _ | subject <;>
      simp [ingressKey, Readable, hr, hp, hs, discard, Functor.mapConst]

/-- The key is the envelope's `original_subject`, a `'.'`, and the ksuid. -/
theorem ingressKey_shape {msg : Msg} {id : Ksuid} {key : List Byte}
    (h : ingressKey msg id = some key) :
    ∃ subject, (getRootAsRequeueMessage msg.data).bind RequeueMessage.originalSubject = some subject ∧
      key = subject ++ str "." ++ id.chars := by
  simp only [ingressKey, Option.bind_eq_bind, Option.bind_eq_some] at h
  obtain ⟨-, -, -, -, fb, hfb, subject, hs, h⟩ := h
  exact ⟨subject, by rw [hfb, Option.some_bind, hs], (Option.some.inj h).symm⟩

theorem processIngressMessageCallback_of_readable {msg : Msg} (h : Readable msg.data = true)
    (err : Option CommitError) : processIngressMessageCallback msg err = some [.respond msg] := by
  rw [processIngressMessageCallback_eq]
  unfold Readable at h
  split at h
  · rename_i fb hr
    obtain ⟨p, hp⟩ := Option.isSome_iff_exists.1 (Bool.and_eq_true _ _ ▸ h).1
    simp [hr, hp]
  · cases h

/-- Every envelope the builder produces is readable. -/
theorem readable_of_bytes {m : Envelope} {buf : List Byte} (h : m.bytes = some buf) :
    Readable buf = true := by
  obtain ⟨hr, -, -, -, -, -, hs, hp⟩ := Envelope.view_bytes h
  simp [Readable, hr, hs, hp]

/-- `Envelope.foo` as a producer publishes it on `requeue.foo`, with an inbox to reply to. -/
def fooMsg : Msg := ⟨str "requeue.foo", str "_INBOX.1", layout Envelope.foo.fields⟩

/-- A buffer of fewer than four bytes is not readable. -/
theorem not_readable_of_short {data : List Byte} (h : data.length < 4) : Readable data = false := by
  simp [Readable, getRootAsRequeueMessage_short h]

/-- **No ingress key is a queue message key**: a `'.'` followed by a key-sized identifier ends a
message key, and 21 bytes from the end of `subject.ksuid` stands a base62 character. -/
theorem ksuid_key_ne_messageKey (subject queue k : List Byte) (id : Ksuid)
    (hk : k.length = Key.size) :
    subject ++ str "." ++ id.chars ≠ (newQueueKeyForMessage queue k).bytes := by
  intro h
  rw [newQueueKeyForMessage_bytes] at h
  have hlen : queue.length = subject.length + 1 := by
    have := congrArg List.length h
    simp only [List.length_append, id.length_eq, hk, Key.size, str] at this
    simp at this
    omega
  have h6 : 6 < id.chars.length := by rw [id.length_eq]; omega
  have hl : (subject ++ str "." ++ id.chars)[subject.length + 7]? = id.chars[6]? := by
    rw [List.getElem?_append_right (by simp [str])]
    congr 1
    simp [str]
  have hr : (str "_q._m." ++ queue ++ str "." ++ k)[subject.length + 7]? = some 46 := by
    rw [List.getElem?_append_left (by simp [str]; omega),
      List.getElem?_append_right (by simp [str]; omega)]
    simp [str, hlen]
    rfl
  rw [h, hr, List.getElem?_eq_getElem h6] at hl
  have hb := id.base62 _ (List.getElem_mem h6)
  rw [← Option.some.inj hl] at hb
  exact absurd hb (by decide)

/-- **Every ingress key is the envelope's `original_subject`, a `'.'` and the ksuid, and none is a
queue message key**, of the queue `"default"` or any other. -/
theorem ingressKey_not_messageKey {msg : Msg} {id : Ksuid} {key : List Byte}
    (h : ingressKey msg id = some key) :
    (∃ subject, (getRootAsRequeueMessage msg.data).bind RequeueMessage.originalSubject = some subject ∧
      key = subject ++ str "." ++ id.chars) ∧
      ∀ queue k : List Byte, k.length = Key.size → key ≠ (newQueueKeyForMessage queue k).bytes := by
  obtain ⟨subject, hs, rfl⟩ := ingressKey_shape h
  exact ⟨⟨subject, hs, rfl⟩, fun queue k hk => ksuid_key_ne_messageKey subject queue k id hk⟩

/-- `fooMsg`, whose `original_subject` is `foo.bar`, is keyed `foo.bar.` and the ksuid. -/
theorem ingressKey_not_messageKey_foo :
    ingressKey fooMsg Ksuid.nil = some (str "foo.bar" ++ str "." ++ Ksuid.nil.chars) ∧
    (∃ subject,
        (getRootAsRequeueMessage fooMsg.data).bind RequeueMessage.originalSubject = some subject ∧
        str "foo.bar" ++ str "." ++ Ksuid.nil.chars = subject ++ str "." ++ Ksuid.nil.chars) ∧
      ∀ queue k : List Byte, k.length = Key.size →
        str "foo.bar" ++ str "." ++ Ksuid.nil.chars ≠ (newQueueKeyForMessage queue k).bytes := by
  have h : ingressKey fooMsg Ksuid.nil = some (str "foo.bar" ++ str "." ++ Ksuid.nil.chars) := rfl
  exact ⟨h, ingressKey_not_messageKey h⟩

/-! ## `processIngressMessage`, and the service's reaction to a writer's notices -/

/-- The service's reaction to one notice of a worker's writer.  A `Set` error is
`processIngressMessage`'s `if err := wb.Set(…); err != nil` branch: it is logged, and handed to the
hook if one is set.  A fired callback runs `processIngressMessageCallback(msg)` on the commit's
outcome. -/
def Options.onNotice (o : Options) : Notice Msg → Option (List Effect)
  | .accepted _ => some []
  | .rejected msg err => some (if o.badgerWriteMsgErr then [.badgerWriteMsgErr msg err] else [])
  | .fired msg err => processIngressMessageCallback msg err

/-- The reactions to a run of notices, in order; a panic in one is a panic of all. -/
def Options.onNotices (o : Options) : List (Notice Msg) → Option (List Effect)
  | [] => some []
  | n :: ns => do
    let es ← o.onNotice n
    let es' ← o.onNotices ns
    pure (es ++ es')

/-- One operation on a worker's writer, and the service's reaction to what it did. -/
def writerStep (o : Options) (lim : Limits) (wb : BatchedWriter Msg) (op : Op Msg) :
    Option (BatchedWriter Msg × List Effect) := do
  let es ← o.onNotices (wb.step lim op).2
  pure ((wb.step lim op).1, es)

/-- `Conn.processIngressMessage(wb, msg)`: build the key, and `Set` it with the message's bytes and
its callback; `r` is the outcome of the commit the `Set` may make. -/
def processIngressMessage (o : Options) (lim : Limits) (wb : BatchedWriter Msg) (msg : Msg)
    (id : Ksuid) (r : Option CommitError) : Option (BatchedWriter Msg × List Effect) := do
  let key ← ingressKey msg id
  writerStep o lim wb (.set ⟨key, msg.data, msg⟩ r)

theorem processIngressMessageCallback_some {msg : Msg} {err : Option CommitError} {es : List Effect}
    (h : processIngressMessageCallback msg err = some es) : es = [.respond msg] := by
  rw [processIngressMessageCallback_eq] at h
  obtain ⟨_, _, rfl⟩ := Option.map_eq_some'.1 h
  rfl

/-- The message the service answers for on a notice: a fired callback's, and a refused one's if
the hook is set. -/
def Options.answersFor (o : Options) : Notice Msg → Option Msg
  | .accepted _ => none
  | .rejected msg _ => if o.badgerWriteMsgErr then some msg else none
  | .fired msg _ => some msg

theorem answersFor_of_set {o : Options} (ho : o.badgerWriteMsgErr = true) :
    o.answersFor = Notice.answeredCb := by
  funext n
  cases n <;> simp [Options.answersFor, Notice.answeredCb, ho]

/-- The service answers for what `answersFor` says, notice by notice, in order. -/
theorem onNotices_answersFor {o : Options} {ns : List (Notice Msg)} {es : List Effect}
    (h : o.onNotices ns = some es) : es.map Effect.msg = ns.filterMap o.answersFor := by
  induction ns generalizing es with
  | nil => cases h; rfl
  | cons n ns ih =>
    simp only [Options.onNotices, Option.bind_eq_bind, Option.bind_eq_some, Option.pure_def,
      Option.some.injEq] at h
    obtain ⟨e, he, es', hes', rfl⟩ := h
    cases n with
    | accepted msg => cases he; simp [Options.answersFor, ih hes']
    | rejected msg err =>
      cases he
      cases hb : o.badgerWriteMsgErr <;> simp [Options.answersFor, hb, Effect.msg, ih hes']
    | fired msg err =>
      rw [processIngressMessageCallback_some he]
      simp [Options.answersFor, Effect.msg, ih hes']

/-- With the hook set, the service answers for exactly the callbacks the notices settle. -/
theorem onNotices_msg {o : Options} (ho : o.badgerWriteMsgErr = true) {ns : List (Notice Msg)}
    {es : List Effect} (h : o.onNotices ns = some es) :
    es.map Effect.msg = ns.filterMap Notice.answeredCb :=
  answersFor_of_set ho ▸ onNotices_answersFor h

/-- The reactions do not panic when every callback the notices settle carries readable bytes. -/
theorem onNotices_isSome (o : Options) {ns : List (Notice Msg)}
    (h : ∀ msg ∈ ns.filterMap Notice.answeredCb, Readable msg.data = true) :
    (o.onNotices ns).isSome := by
  induction ns with
  | nil => rfl
  | cons n ns ih =>
    have ih := ih fun msg hm => h msg (by cases hn : n.answeredCb <;> simp_all)
    obtain ⟨es', hes'⟩ := Option.isSome_iff_exists.1 ih
    have hn : (o.onNotice n).isSome := by
      cases n with
      | accepted msg => rfl
      | rejected msg err => rfl
      | fired msg err =>
        simp [Options.onNotice,
          processIngressMessageCallback_of_readable (h msg (by simp [Notice.answeredCb]))]
    obtain ⟨es, hes⟩ := Option.isSome_iff_exists.1 hn
    simp [Options.onNotices, hes, hes']

end NatsRequeue
