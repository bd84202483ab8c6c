import Pyzlc.Sockets.ServiceManager
import Pyzlc.Utils.Msgpack

/-!
# From a handler to a reply

A registered handler runs inside a wrapper that unpacks its argument and packs its value,
in a worker thread whose result the service loop awaits.  The wrapper and the request
handling both catch exceptions; what a reply says is the composition of the two.
-/

namespace Pyzlc

open Foundation

variable {α : Type}

/-- What a handler does with an argument: it returns a value or raises. -/
abbrev Handler (α : Type) := α → Except PyError α

namespace ServiceManager

/-- The `try` block of the wrapper. -/
def wrapperBody (msgpack : Msgpack α) (handler : Handler α) (requestBytes : Bytes) :
    Except PyError Bytes := do
  let arg ← msgpack.unpackb { raw := false } requestBytes
  let value ← handler arg
  let result ← msgpack.packb { useBinType := true } value
  match result with
  | some bytes => return bytes
  | none => throw .assertionError

/-- Static helper to wrap a standard handler with msgpack logic. -/
def wrapHandler (msgpack : Msgpack α) (handler : Handler α) (requestBytes : Bytes) :
    Except PyError Bytes :=
  match wrapperBody msgpack handler requestBytes with
  | .error .extraData => .ok []
  | outcome => outcome

/-- How the wait for the executor ends.  An exception outside `Exception` is not stored in
the future, so nothing arrives before the timeout. -/
def runInExecutor (expired : Bool) (outcome : Except PyError Bytes) : HandlerOutcome :=
  if expired then
    .raised .timeoutError rfl
  else
    match outcome with
    | .ok result => .value (some result)
    | .error error =>
        if ordinary : error.isException = true then .raised error ordinary
        else .raised .timeoutError rfl

/-- `_handle_request` on services registered through `register_service`. -/
def reply (msgpack : Msgpack α) (expired : Bool) (serviceName : Text) (request : Bytes)
    (manager : ServiceManager (Handler α)) : Except PyError (Bytes × Bytes) :=
  manager.handleRequest
    (fun handler request => runInExecutor expired (wrapHandler msgpack handler request))
    serviceName request

/-- A reply reports neither a success nor an invalid request, and carries nothing. -/
def Failure (outcome : Except PyError (Bytes × Bytes)) : Prop :=
  ∀ status payload, outcome = .ok (status, payload) →
    (status ≠ ResponseStatus.success.encode ∧ status ≠ ResponseStatus.invalidRequest.encode) ∧
      payload = []

theorem failure_ok {status : ResponseStatus}
    (failed : status ≠ .success ∧ status ≠ .invalidRequest) :
    Failure (.ok (status.encode, [])) := by
  intro wire payload same
  cases same
  refine ⟨⟨?_, ?_⟩, rfl⟩
  · exact fun equal => failed.1 (ResponseStatus.encode_injective equal)
  · exact fun equal => failed.2 (ResponseStatus.encode_injective equal)

theorem failure_error (error : PyError) : Failure (.error error) := by
  intro status payload same
  cases same

variable {msgpack : Msgpack α} {manager : ServiceManager (Handler α)} {expired : Bool}
  {serviceName : Text} {request : Bytes} {handler : Handler α}

theorem reply_of_unknown (unknown : manager.callableServices.lookup serviceName = none) :
    manager.reply msgpack expired serviceName request =
      .ok (ResponseStatus.noService.encode, []) := by
  rw [reply, handleRequest, unknown]

theorem reply_of_expired
    (found : manager.callableServices.lookup serviceName = some handler) :
    manager.reply msgpack true serviceName request =
      .ok (ResponseStatus.serviceTimeout.encode, []) := by
  rw [reply, handleRequest, found]
  rfl

theorem reply_of_value (found : manager.callableServices.lookup serviceName = some handler)
    {payload : Bytes} (completed : wrapperBody msgpack handler request = .ok payload) :
    manager.reply msgpack false serviceName request =
      .ok (ResponseStatus.success.encode, payload) := by
  rw [reply, handleRequest, found]
  simp only [wrapHandler, completed]
  rfl

/-- The wrapper turns the decoder's error into an empty result. -/
theorem reply_of_extraData
    (found : manager.callableServices.lookup serviceName = some handler)
    (raised : wrapperBody msgpack handler request = .error .extraData) :
    manager.reply msgpack false serviceName request =
      .ok (ResponseStatus.success.encode, []) := by
  rw [reply, handleRequest, found]
  simp only [wrapHandler, raised]
  rfl

theorem reply_of_error (found : manager.callableServices.lookup serviceName = some handler)
    {error : PyError} (raised : wrapperBody msgpack handler request = .error error)
    (other : error ≠ .extraData) : Failure (manager.reply msgpack false serviceName request) := by
  have wrapped : wrapHandler msgpack handler request = .error error := by
    rw [wrapHandler, raised]
    cases error <;> first | rfl | exact absurd rfl other
  rw [reply, handleRequest, found]
  simp only [wrapped]
  cases error with
  | extraData => exact absurd rfl other
  | runtimeError =>
      cases running : manager.running with
      | true => exact failure_ok (by decide)
      | false => exact failure_error _
  | keyError key | exception name => exact failure_ok (by decide)
  | baseException name => exact failure_ok (by decide)
  | valueError | unicodeEncodeError | unicodeDecodeError | structError | assertionError
  | timeoutError | cancelledError | zmqError => exact failure_ok (by decide)

theorem wrapperBody_eq_ok {payload : Bytes} :
    wrapperBody msgpack handler request = .ok payload ↔
      ∃ arg value, msgpack.unpackb {} request = .ok arg ∧ handler arg = .ok value ∧
        msgpack.packb {} value = .ok (some payload) := by
  simp only [wrapperBody, except_bind_eq_ok]
  constructor
  · rintro ⟨arg, unpacked, value, returned, packed, packing, chosen⟩
    cases packed with
    | none => cases chosen
    | some bytes =>
        cases chosen
        exact ⟨arg, value, unpacked, returned, packing⟩
  · rintro ⟨arg, value, unpacked, returned, packed⟩
    exact ⟨arg, unpacked, value, returned, some payload, packed, rfl⟩

/-- The error the wrapper swallows comes from the request or from the handler. -/
theorem wrapperBody_eq_extraData (documented : msgpack.Documented) :
    wrapperBody msgpack handler request = .error .extraData ↔
      msgpack.AcceptsFront request ∨
        ∃ arg, msgpack.unpackb {} request = .ok arg ∧ handler arg = .error .extraData := by
  rw [← documented.extraData_iff, wrapperBody]
  show (msgpack.unpackb {} request).bind _ = _ ↔ _
  cases msgpack.unpackb {} request with
  | error error => simp [Except.bind]
  | ok arg =>
      simp only [Except.bind, reduceCtorEq, Except.ok.injEq, exists_eq_left', false_or]
      show (handler arg).bind _ = _ ↔ _
      cases handler arg with
      | error error => simp [Except.bind]
      | ok value =>
          simp only [Except.bind, reduceCtorEq, iff_false]
          intro raised
          have packing := documented.packb_ne_extraData value
          change (msgpack.packb {} value).bind _ = _ at raised
          cases packed : msgpack.packb {} value with
          | error error =>
              rw [packed] at raised packing
              cases raised
              exact packing rfl
          | ok result =>
              rw [packed] at raised
              cases result <;> cases raised

/-- The answer to an invalid request is never given, as the wrapper keeps the error it is for. -/
theorem reply_ne_invalidRequest
    (found : manager.callableServices.lookup serviceName = some handler) (payload : Bytes) :
    manager.reply msgpack expired serviceName request ≠
      .ok (ResponseStatus.invalidRequest.encode, payload) := by
  have successful : ∀ result : Bytes, (.ok (ResponseStatus.success.encode, result) :
      Except PyError (Bytes × Bytes)) ≠ .ok (ResponseStatus.invalidRequest.encode, payload) := by
    intro result same
    have statuses : ResponseStatus.success.encode = ResponseStatus.invalidRequest.encode :=
      (Prod.ext_iff.1 (Except.ok.inj same)).1
    cases ResponseStatus.encode_injective statuses
  intro invalid
  cases expired with
  | true =>
      rw [reply_of_expired found] at invalid
      exact (failure_ok (by decide) _ _ invalid).1.2 rfl
  | false =>
      cases outcome : wrapperBody msgpack handler request with
      | ok result =>
          rw [reply_of_value found outcome] at invalid
          exact successful result invalid
      | error error =>
          by_cases extra : error = .extraData
          · rw [extra] at outcome
            rw [reply_of_extraData found outcome] at invalid
            exact successful [] invalid
          · exact (reply_of_error found outcome extra _ _ invalid).1.2 rfl

/-- What a reply says is what happened. -/
structure Truthful (msgpack : Msgpack α) (expired : Bool) (serviceName : Text) (request : Bytes)
    (manager : ServiceManager (Handler α)) : Prop where
  success : ∀ payload,
    manager.reply msgpack expired serviceName request =
        .ok (ResponseStatus.success.encode, payload) ↔
      MessagePack.Object request ∧
      ∃ handler arg value, manager.callableServices.lookup serviceName = some handler ∧
        expired = false ∧ msgpack.unpackb {} request = .ok arg ∧ handler arg = .ok value ∧
        msgpack.packb {} value = .ok (some payload)
  nonempty : ∀ payload,
    manager.reply msgpack expired serviceName request =
      .ok (ResponseStatus.success.encode, payload) → payload ≠ []
  invalidRequest : ∀ handler, manager.callableServices.lookup serviceName = some handler →
    expired = false → Msgpack.HasExtraData request →
    manager.reply msgpack expired serviceName request =
      .ok (ResponseStatus.invalidRequest.encode, [])
  noService : manager.callableServices.lookup serviceName = none →
    manager.reply msgpack expired serviceName request =
      .ok (ResponseStatus.noService.encode, [])
  timeout : ∀ handler, manager.callableServices.lookup serviceName = some handler →
    expired = true →
    manager.reply msgpack expired serviceName request =
      .ok (ResponseStatus.serviceTimeout.encode, [])
  emptyPayload : ∀ status payload,
    manager.reply msgpack expired serviceName request = .ok (status, payload) →
    status ≠ ResponseStatus.success.encode → payload = []

/-- A known service that is answered in time gets no bytes behind a complete object, and its
handler does not raise `ExtraData`. -/
def NoExtraData (msgpack : Msgpack α) (expired : Bool) (serviceName : Text) (request : Bytes)
    (manager : ServiceManager (Handler α)) : Prop :=
  ∀ handler, manager.callableServices.lookup serviceName = some handler → expired = false →
    ¬ Msgpack.HasExtraData request ∧
      ∀ arg, msgpack.unpackb {} request = .ok arg → handler arg ≠ .error .extraData

theorem truthful_of_unknown (unknown : manager.callableServices.lookup serviceName = none) :
    Truthful msgpack expired serviceName request manager := by
  have replied : manager.reply msgpack expired serviceName request = _ :=
    reply_of_unknown unknown
  have failure : Failure (manager.reply msgpack expired serviceName request) := by
    rw [replied]
    exact failure_ok (by decide)
  constructor
  case success =>
    intro payload
    constructor
    · intro same
      exact absurd rfl (failure _ _ same).1.1
    · rintro ⟨-, handler, _, _, found, -⟩
      cases unknown.symm.trans found
  case nonempty => exact fun payload same => absurd rfl (failure _ _ same).1.1
  case invalidRequest => exact fun handler found => nomatch unknown.symm.trans found
  case noService => exact fun _ => replied
  case timeout => exact fun handler found => nomatch unknown.symm.trans found
  case emptyPayload => exact fun status payload same _ => (failure _ _ same).2

theorem truthful_of_expired (found : manager.callableServices.lookup serviceName = some handler) :
    Truthful msgpack true serviceName request manager := by
  have replied : manager.reply msgpack true serviceName request = _ := reply_of_expired found
  have failure : Failure (manager.reply msgpack true serviceName request) := by
    rw [replied]
    exact failure_ok (by decide)
  constructor
  case success =>
    intro payload
    constructor
    · intro same
      exact absurd rfl (failure _ _ same).1.1
    · rintro ⟨-, _, _, _, _, inTime, -⟩
      cases inTime
  case nonempty => exact fun payload same => absurd rfl (failure _ _ same).1.1
  case invalidRequest => exact fun _ _ inTime => nomatch inTime
  case noService => exact fun unknown => nomatch found.symm.trans unknown
  case timeout => exact fun _ _ _ => replied
  case emptyPayload => exact fun status payload same _ => (failure _ _ same).2

theorem truthful_of_value (documented : msgpack.Documented)
    (unpacksObjects : msgpack.UnpacksObjects)
    (found : manager.callableServices.lookup serviceName = some handler) {payload : Bytes}
    (completed : wrapperBody msgpack handler request = .ok payload)
    (clean : ¬ Msgpack.HasExtraData request) :
    Truthful msgpack false serviceName request manager := by
  have replied : manager.reply msgpack false serviceName request = _ :=
    reply_of_value found completed
  rcases wrapperBody_eq_ok.1 completed with ⟨arg, value, unpacked, returned, packed⟩
  constructor
  case success =>
    intro other
    rw [replied]
    constructor
    · intro same
      cases same
      exact ⟨unpacksObjects request arg unpacked, handler, arg, value, found, rfl,
        unpacked, returned, packed⟩
    · rintro ⟨-, _, _, _, otherFound, -, otherUnpacked, otherReturned, otherPacked⟩
      cases found.symm.trans otherFound
      cases unpacked.symm.trans otherUnpacked
      cases returned.symm.trans otherReturned
      cases packed.symm.trans otherPacked
      rfl
  case nonempty =>
    intro other same
    rw [replied] at same
    cases same
    exact documented.packb_ne_nil value payload packed
  case invalidRequest => exact fun _ _ _ extra => absurd extra clean
  case noService => exact fun unknown => nomatch found.symm.trans unknown
  case timeout => exact fun _ _ expired => nomatch expired
  case emptyPayload =>
    intro status other same failed
    rw [replied] at same
    cases same
    exact absurd rfl failed

/-- A failure reply is truthful where the wrapper did not complete. -/
theorem truthful_of_failure (found : manager.callableServices.lookup serviceName = some handler)
    (failure : Failure (manager.reply msgpack false serviceName request))
    (incomplete : ∀ payload, wrapperBody msgpack handler request ≠ .ok payload)
    (clean : ¬ Msgpack.HasExtraData request) :
    Truthful msgpack false serviceName request manager := by
  constructor
  case success =>
    intro payload
    constructor
    · intro replied
      exact absurd rfl (failure _ _ replied).1.1
    · rintro ⟨-, _, arg, value, otherFound, -, unpacked, returned, packed⟩
      cases found.symm.trans otherFound
      exact absurd (wrapperBody_eq_ok.2 ⟨arg, value, unpacked, returned, packed⟩)
        (incomplete payload)
  case nonempty => exact fun payload same => absurd rfl (failure _ _ same).1.1
  case invalidRequest => exact fun _ _ _ extra => absurd extra clean
  case noService => exact fun unknown => nomatch found.symm.trans unknown
  case timeout => exact fun _ _ expired => nomatch expired
  case emptyPayload => exact fun status payload same _ => (failure _ _ same).2

/-- A reply is truthful exactly when the wrapper has no `ExtraData` to swallow. -/
theorem truthful_iff (documented : msgpack.Documented)
    (unpacksObjects : msgpack.UnpacksObjects) :
    Truthful msgpack expired serviceName request manager ↔
      NoExtraData msgpack expired serviceName request manager := by
  constructor
  · intro truthful handler found inTime
    cases inTime
    have swallowed : wrapperBody msgpack handler request ≠ .error .extraData := by
      intro raised
      exact truthful.nonempty [] (reply_of_extraData found raised) rfl
    rw [Ne, wrapperBody_eq_extraData documented, not_or] at swallowed
    refine ⟨?_, fun arg unpacked raised => swallowed.2 ⟨arg, unpacked, raised⟩⟩
    intro extra
    exact reply_ne_invalidRequest found [] (truthful.invalidRequest handler found rfl extra)
  · intro clean
    cases lookup : manager.callableServices.lookup serviceName with
    | none => exact truthful_of_unknown lookup
    | some handler =>
        cases expired with
        | true => exact truthful_of_expired lookup
        | false =>
            rcases clean handler lookup rfl with ⟨noExtra, noRaise⟩
            cases outcome : wrapperBody msgpack handler request with
            | ok payload => exact truthful_of_value documented unpacksObjects lookup outcome noExtra
            | error error =>
                have other : error ≠ .extraData := by
                  rintro rfl
                  rcases (wrapperBody_eq_extraData documented).1 outcome with extra | raised
                  · exact noExtra (extra.hasExtraData unpacksObjects)
                  · rcases raised with ⟨arg, unpacked, raises⟩
                    exact noRaise arg unpacked raises
                apply truthful_of_failure lookup (reply_of_error lookup outcome other)
                · intro payload completed
                  rw [outcome] at completed
                  cases completed
                · exact noExtra

/-! ## A request with a byte too many -/

/-- A manager with one service, which returns its argument. -/
def echoing : ServiceManager (Handler MessagePack.Value) :=
  { (init : ServiceManager (Handler MessagePack.Value)) with
    callableServices := Dict.set ∅ (Text.ofString "echo") fun arg => .ok arg }

theorem lookup_echoing :
    echoing.callableServices.lookup (Text.ofString "echo") = some fun arg => .ok arg :=
  Dict.lookup_set_self _ _ _

/-- The object `nil` gets the reply it deserves. -/
theorem truthful_iff_echoing :
    Truthful (Msgpack.standard 512) false (Text.ofString "echo") [0xc0] echoing := by
  refine (truthful_iff (Msgpack.standard_documented 512) (Msgpack.standard_unpacksObjects 512)).2 ?_
  intro handler found _
  cases found.symm.trans lookup_echoing
  constructor
  · rintro ⟨object, rest, split, more, complete⟩
    cases object with
    | nil => exact MessagePack.not_object_nil complete
    | cons first others =>
        have ends := (List.cons.inj split).2
        exact more (List.append_eq_nil_iff.1 ends.symm).2
  · intro arg _ raised
    cases raised

/-- The same object with a byte behind it is answered as a success without a payload. -/
theorem not_truthful_echoing :
    Msgpack.HasExtraData [0xc0, 0xc0] ∧
      echoing.reply (Msgpack.standard 512) false (Text.ofString "echo") [0xc0, 0xc0] =
        .ok (ResponseStatus.success.encode, []) ∧
      ¬ Truthful (Msgpack.standard 512) false (Text.ofString "echo") [0xc0, 0xc0] echoing := by
  have extra : Msgpack.HasExtraData [0xc0, 0xc0] :=
    ⟨[0xc0], [0xc0], rfl, List.cons_ne_nil _ _,
      Msgpack.standard_unpacksObjects 512 _ (.scalar .nil) rfl⟩
  have replied : echoing.reply (Msgpack.standard 512) false (Text.ofString "echo") [0xc0, 0xc0] =
      .ok (ResponseStatus.success.encode, []) :=
    reply_of_extraData lookup_echoing rfl
  exact ⟨extra, replied, fun truthful => truthful.nonempty [] replied rfl⟩

-- bytes behind a map with an integer key, which is not unpacked, are not answered as such either
example :
    Msgpack.HasExtraData [0x81, 0x01, 0xc0, 0xc0] ∧
      echoing.reply (Msgpack.standard 512) false (Text.ofString "echo") [0x81, 0x01, 0xc0, 0xc0] =
        .ok (ResponseStatus.unknownError.encode, []) := by
  have unpacked := Msgpack.standard_unpacksObjects 512
  have number : MessagePack.Object [0x01] := unpacked _ (.scalar (.int 1)) rfl
  have nothing : MessagePack.Object [0xc0] := unpacked _ (.scalar .nil) rfl
  have entry : MessagePack.Objects 2 [0x01, 0xc0] := .more number (.more nothing .none)
  exact ⟨⟨[0x81, 0x01, 0xc0], [0xc0], rfl, List.cons_ne_nil _ _, .nested rfl entry⟩, rfl⟩

end ServiceManager

end Pyzlc
