/-
# Maple requests

The Maple adapter expects a whole CCIP message behind its selector, and the dispatcher
routes no more than `EXTRA_DATA_MAX_LEN` bytes of `extra_data`.  A message that sends
any token is longer than that, so the dispatcher refuses every one of them.
-/
import YieldAdapter.Deployment
import YieldAdapter.Selectors

open Solana

namespace MapleAdapter

/-! ## The message format -/

/-- A token with the amount of it to send. -/
structure TokenAmount where
  token : Pubkey
  amount : UInt64
  deriving DecidableEq

/-- A CCIP message. -/
structure CcipMessage where
  receiver : List UInt8
  data : List UInt8
  token_amounts : List TokenAmount
  fee_token : Pubkey
  extra_args : List UInt8
  deriving DecidableEq

/-- `CcipSendInstructionArgs`. -/
structure CcipSendInstructionArgs where
  dest_chain_selector : UInt64
  message : CcipMessage
  token_indexes : List UInt8
  deriving DecidableEq

/-- Borsh format of `TokenAmount`. -/
def TokenAmount.codec : Codec TokenAmount :=
  Codec.imap (.pair Pubkey.codec .u64)
    ⟨fun p => ⟨p.1, p.2⟩, fun a => (a.token, a.amount), fun _ => rfl, fun _ => rfl⟩

/-- Borsh format of `CcipMessage`. -/
def CcipMessage.codec : Codec CcipMessage :=
  Codec.imap (.pair .byteVec (.pair .byteVec (.pair (.vec TokenAmount.codec)
      (.pair Pubkey.codec .byteVec))))
    ⟨fun p => ⟨p.1, p.2.1, p.2.2.1, p.2.2.2.1, p.2.2.2.2⟩,
      fun a => (a.receiver, a.data, a.token_amounts, a.fee_token, a.extra_args), fun _ => rfl,
      fun _ => rfl⟩

/-- Borsh format of `CcipSendInstructionArgs`. -/
def CcipSendInstructionArgs.codec : Codec CcipSendInstructionArgs :=
  Codec.imap (.pair .u64 (.pair CcipMessage.codec .byteVec))
    ⟨fun p => ⟨p.1, p.2.1, p.2.2⟩, fun a => (a.dest_chain_selector, a.message, a.token_indexes),
      fun _ => rfl, fun _ => rfl⟩

/-- The `extra_data` of a request: the selector of `ccip_send`, then the arguments. -/
def CcipSendInstructionArgs.extra_data (request : CcipSendInstructionArgs) : List UInt8 :=
  0 :: codec.encode request

/-! ## Sizes -/

@[simp] theorem TokenAmount.length_encode (a : TokenAmount) : (codec.encode a).length = 40 := by
  show (a.token.bytes ++ Codec.u64.encode a.amount).length = 40
  rw [List.length_append, Pubkey.length_bytes, Codec.length_encode_u64]

@[simp] theorem CcipMessage.length_encode (message : CcipMessage) :
    (codec.encode message).length = 48 + message.receiver.length + message.data.length +
      40 * message.token_amounts.length + message.extra_args.length := by
  show (Codec.byteVec.encode message.receiver ++ (Codec.byteVec.encode message.data ++
    ((Codec.vec TokenAmount.codec).encode message.token_amounts ++
      (message.fee_token.bytes ++ Codec.byteVec.encode message.extra_args)))).length = _
  simp only [List.length_append, Codec.length_encode_byteVec, Pubkey.length_bytes,
    Codec.length_encode_vec _ TokenAmount.length_encode]
  omega

/-- **The size of a request**, in terms of its variable parts. -/
theorem CcipSendInstructionArgs.length_extra_data (request : CcipSendInstructionArgs) :
    request.extra_data.length = 61 + request.message.receiver.length +
      request.message.data.length + 40 * request.message.token_amounts.length +
      request.message.extra_args.length + request.token_indexes.length := by
  have hargs : (codec.encode request).length = 8 + ((CcipMessage.codec.encode
      request.message).length + (4 + request.token_indexes.length)) := by
    show (Codec.u64.encode request.dest_chain_selector ++ (CcipMessage.codec.encode
      request.message ++ Codec.byteVec.encode request.token_indexes)).length = _
    simp only [List.length_append, Codec.length_encode_u64, Codec.length_encode_byteVec]
  rw [extra_data, List.length_cons, hargs, CcipMessage.length_encode]
  omega

end MapleAdapter

namespace Dispatcher

/-! ## Routing a request -/

open MapleAdapter

variable {d : Direction} {amount : UInt64} {extra_data : List UInt8} {adapter : Adapter}

/-- Of an `Active` record, the check of `deposit` and `withdraw` is the bound alone. -/
theorem validate_eq_error {bound : Bool} {e : Error}
    (hactive : adapter.status = AdapterStatus.Active.as_u8) (hbound : bound = false) :
    (do let active ← adapter.is_active
        require active (dispatcherError .Inactive)
        require bound e : Except Error Unit) = .error e := by
  rw [Adapter.is_active_eq_ok_true.mpr hactive, hbound]
  rfl

/-- More `extra_data` than fits is refused, though the record be `Active`. -/
theorem Direction.validate_route_of_long (hactive : adapter.status = AdapterStatus.Active.as_u8)
    (hlong : EXTRA_DATA_MAX_LEN < extra_data.length) :
    (d.route amount extra_data).validate adapter = .error (dispatcherError .Overflow) := by
  have hbound : decide (extra_data.length ≤ EXTRA_DATA_MAX_LEN) = false :=
    decide_eq_false (by omega)
  cases d with
  | deposit => exact validate_eq_error hactive hbound
  | withdraw => exact validate_eq_error hactive hbound

/-- The adapter sends a request on to the CCIP router as it is. -/
def SentUnchanged (d : Direction) (request : CcipSendInstructionArgs) (amount : UInt64)
    (spl : SplToken) : Prop :=
  (d.flow (MapleAdapter.program spl)).dispatch 0 amount request.extra_data =
    .ok ⟨CCIP_SEND ++ CcipSendInstructionArgs.codec.encode request, amount⟩

theorem sentUnchanged (d : Direction) (request : CcipSendInstructionArgs) (amount : UInt64)
    (spl : SplToken) : SentUnchanged d request amount spl := by
  cases d with
  | deposit => exact AdapterDeposit_dispatch_eq_ok.mpr ⟨rfl, rfl⟩
  | withdraw => exact AdapterWithdraw_dispatch_eq_ok.mpr ⟨rfl, rfl⟩

/-- A request passes the dispatcher's check against the record, and is sent on as it
is. -/
def Routable (d : Direction) (request : CcipSendInstructionArgs) (amount : UInt64)
    (adapter : Adapter) (spl : SplToken) : Prop :=
  (d.route amount request.extra_data).validate adapter = .ok () ∧
    SentUnchanged d request amount spl

/-- A request that sends a token is longer than the limit. -/
theorem length_extra_data_of_token {request : CcipSendInstructionArgs}
    (h : request.message.token_amounts ≠ []) :
    EXTRA_DATA_MAX_LEN < request.extra_data.length := by
  have hpos : 0 < request.message.token_amounts.length := List.length_pos_iff.mpr h
  rw [request.length_extra_data, EXTRA_DATA_MAX_LEN]
  omega

/-- **No request that sends a token is ever routed**: the adapter would send it on, but
the dispatcher's check refuses it against every `Active` record, and whatever the
accounts and the ledger, the call fails without calling anything. -/
theorem maple_request_not_routable {request : CcipSendInstructionArgs}
    (htoken : request.message.token_amounts ≠ [])
    (hactive : adapter.status = AdapterStatus.Active.as_u8) (spl : SplToken) :
    ¬ Routable d request amount adapter spl ∧ SentUnchanged d request amount spl ∧
    (d.route amount request.extra_data).validate adapter = .error (dispatcherError .Overflow) ∧
    ∀ C w accounts ℓ,
      (execute C w accounts (d.call amount request.extra_data) ℓ).result ≠ .ok () ∧
        (execute C w accounts (d.call amount request.extra_data) ℓ).calls = [] := by
  have hlong := length_extra_data_of_token htoken
  have hrefused : (d.route amount request.extra_data).validate adapter =
      .error (dispatcherError .Overflow) := Direction.validate_route_of_long hactive hlong
  refine ⟨fun hroutable => ?_, sentUnchanged d request amount spl, hrefused,
    fun C w accounts ℓ => ?_⟩
  · rw [Routable, hrefused] at hroutable
    exact absurd hroutable.1 (by simp)
  · rcases hplan : (d.route amount request.extra_data).planAt C accounts ℓ with e | ⟨ix, ctx⟩
    · rw [execute_route_of_error d.route_call hplan]
      exact ⟨by simp, rfl⟩
    · obtain ⟨_, _, _, -, -, -, -, -, hvalidate, -, -⟩ := Route.planAt_eq_ok.mp hplan
      have hshort := (Direction.validate_route_eq_ok.mp hvalidate).2
      omega

/-- The record of the Maple adapter, `Active`. -/
def mapleRecord : Adapter :=
  (⟨INITIALIZER, MapleAdapter.ID, USDC, 0⟩ : AdapterInitArgs).record 1700000000 255

/-- A request for 5 units of USDC, with everything else empty. -/
def sampleRequest : CcipSendInstructionArgs where
  dest_chain_selector := 5009297550715157269
  message := ⟨[], [], [⟨USDC, 5⟩], Pubkey.default, []⟩
  token_indexes := []

/-- It has 101 bytes, and is refused. -/
theorem maple_request_refused :
    sampleRequest.extra_data.length = 101 ∧
      ¬ Routable .deposit sampleRequest 5 mapleRecord sampleThirdParty.spl := by
  refine ⟨rfl, fun hroutable => ?_⟩
  exact absurd (Direction.validate_route_eq_ok.mp hroutable.1).2 (by decide)

/-- The same as a withdrawal. -/
theorem maple_request_not_routable_sample :
    ¬ Routable .withdraw sampleRequest 5 mapleRecord sampleThirdParty.spl :=
  (maple_request_not_routable (by simp [sampleRequest]) (by decide) _).1

end Dispatcher
