import CatLitterBox.Program.Oracle
import Mathlib.Tactic.Ring
import Mathlib.Tactic.SplitIfs

open program

namespace catbox.tls

/-- The structures of `MbedtlsPkcs11Context_t` that mbedTLS allocates memory or a socket for. -/
inductive Part where
  | socketContext
  | context
  | config
  | rootCa
  | clientCert
deriving DecidableEq

/-- The calls into mbedTLS and the PKCS #11 module that can fail. -/
inductive Call where
  | mbedtls_ssl_config_defaults
  | mbedtls_x509_crt_parse_file
  | find_private_key
  | get_key_type
  | find_certificate
  | get_certificate_size
  | get_certificate_value
  | mbedtls_x509_crt_parse
  | mbedtls_ssl_conf_own_cert
  | mbedtls_ssl_set_hostname
  | mbedtls_ssl_setup
  | mbedtls_net_connect
  | mbedtls_ssl_get_verify_result
  | mbedtls_ssl_close_notify
deriving DecidableEq

/-- The structure that a call fills, even where it fails. -/
def Call.fills : Call → Option Part
  | .mbedtls_ssl_config_defaults | .mbedtls_ssl_conf_own_cert => some .config
  | .mbedtls_x509_crt_parse_file => some .rootCa
  | .mbedtls_x509_crt_parse => some .clientCert
  | .mbedtls_ssl_set_hostname | .mbedtls_ssl_setup => some .context
  | .mbedtls_net_connect => some .socketContext
  | _ => none

inductive KeyType where
  | CKK_RSA
  | CKK_EC
  | other
deriving DecidableEq

/-- The results of `mbedtls_ssl_handshake`: 0, that it wants to read or to write, or another error. -/
inductive Handshake where
  | done
  | want
  | failed
deriving DecidableEq

inductive Action where
  | init (p : Part)
  | free (p : Part)
  | call (f : Call)
  | keyType
  | malloc_certificate
  | free_certificate
  | mbedtls_ssl_handshake
  | BackoffAlgorithm_InitializeParams
  | rand
  | Clock_SleepMs (sleepTimeMs : Nat)

/-- A call succeeds or fails; an object is found where its handle is valid. -/
def Action.Answer : Action → Type
  | .call _ => Bool
  | .keyType => KeyType
  | .malloc_certificate => Bool
  | .mbedtls_ssl_handshake => Handshake
  | .rand => UInt32
  | _ => Unit

abbrev Code (α : Type) : Type 1 := Program Action Action.Answer α

abbrev Event : Type := (a : Action) × a.Answer

def act (a : Action) : Code a.Answer := Program.perform a

def call (f : Call) : Code Bool := Program.perform (R := Action.Answer) (.call f)

inductive Status where
  | MBEDTLS_PKCS11_SUCCESS
  | MBEDTLS_PKCS11_INSUFFICIENT_MEMORY
  | MBEDTLS_PKCS11_INVALID_CREDENTIALS
  | MBEDTLS_PKCS11_HANDSHAKE_FAILED
  | MBEDTLS_PKCS11_INTERNAL_ERROR
  | MBEDTLS_PKCS11_CONNECT_FAILURE
deriving DecidableEq

/-- A step that comes after the ones before it have succeeded. -/
def andThen (before step : Code Status) : Code Status := do
  let returnStatus ← before
  if returnStatus = .MBEDTLS_PKCS11_SUCCESS then step else return returnStatus

/-- A call that gives a status where it fails. -/
def checked (f : Call) (failure : Status) : Code Status := do
  let ok ← call f
  if ok then return .MBEDTLS_PKCS11_SUCCESS else return failure

def contextInit : Code Unit := do
  let _ ← act (.init .socketContext)
  let _ ← act (.init .context)
  let _ ← act (.init .config)
  let _ ← act (.init .rootCa)
  let _ ← act (.init .clientCert)
  return ()

def contextFree : Code Unit := do
  let _ ← act (.free .socketContext)
  let _ ← act (.free .context)
  let _ ← act (.free .config)
  let _ ← act (.free .rootCa)
  let _ ← act (.free .clientCert)
  return ()

def initializeClientKeys : Code Bool := do
  if ← call .find_private_key then
    if ← call .get_key_type then do
      let keyType : KeyType ← act .keyType
      return keyType = .CKK_RSA ∨ keyType = .CKK_EC
    else return false
  else return false

/-- The certificate is exported into the block, and decoded. -/
def decodeCertificate : Code Bool := do
  if ← call .get_certificate_value then call .mbedtls_x509_crt_parse
  else return false

/-- The certificate is read into a block of its own, which is freed whatever comes of it. -/
def readCertificateIntoContext : Code Bool := do
  if ← call .find_certificate then
    if ← call .get_certificate_size then do
      let allocated : Bool ← act .malloc_certificate
      if allocated then do
        let parsed ← decodeCertificate
        let _ ← act .free_certificate
        return parsed
      else return false
    else return false
  else return false

def configureMbedtlsCertificates : Code Status :=
  andThen (andThen (checked .mbedtls_x509_crt_parse_file .MBEDTLS_PKCS11_INVALID_CREDENTIALS) do
    if ← initializeClientKeys then return .MBEDTLS_PKCS11_SUCCESS
    else return .MBEDTLS_PKCS11_INVALID_CREDENTIALS) do
  if ← readCertificateIntoContext then do
    let _ ← call .mbedtls_ssl_conf_own_cert
    return .MBEDTLS_PKCS11_SUCCESS
  else return .MBEDTLS_PKCS11_INVALID_CREDENTIALS

/-- The port is not 443, so there is no ALPN. -/
def configureMbedtlsSniAlpn : Code Status := checked .mbedtls_ssl_set_hostname .MBEDTLS_PKCS11_INTERNAL_ERROR

def configureMbedtls : Code Status := do
  contextInit
  let returnStatus ←
    andThen (andThen (andThen (checked .mbedtls_ssl_config_defaults .MBEDTLS_PKCS11_INSUFFICIENT_MEMORY)
      configureMbedtlsCertificates) configureMbedtlsSniAlpn)
      (checked .mbedtls_ssl_setup .MBEDTLS_PKCS11_INTERNAL_ERROR)
  if returnStatus = .MBEDTLS_PKCS11_SUCCESS then return returnStatus
  else do
    contextFree
    return returnStatus

/-- The loop of the handshake: whether it has been done. -/
def handshake : Code Bool :=
  Program.repeated (fun _ : Unit => do
    let result : Handshake ← act .mbedtls_ssl_handshake
    match result with
    | .want => return .inl ()
    | .done => return .inr true
    | .failed => return .inr false) ()

def Mbedtls_Pkcs11_Connect : Code Status := do
  let returnStatus ←
    andThen (andThen configureMbedtls (checked .mbedtls_net_connect .MBEDTLS_PKCS11_CONNECT_FAILURE)) do
      if ← handshake then checked .mbedtls_ssl_get_verify_result .MBEDTLS_PKCS11_HANDSHAKE_FAILED
      else return .MBEDTLS_PKCS11_HANDSHAKE_FAILED
  if returnStatus = .MBEDTLS_PKCS11_SUCCESS then return returnStatus
  else do
    contextFree
    return returnStatus

def Mbedtls_Pkcs11_Disconnect : Code Unit := do
  let _ ← call .mbedtls_ssl_close_notify
  contextFree

/-- `BackoffAlgorithmContext_t`. -/
structure BackoffAlgorithmContext where
  maxBackoffDelay : Nat
  attemptsDone : Nat
  nextJitterMax : Nat
  maxRetryAttempts : Nat

def BACKOFF_ALGORITHM_RETRY_FOREVER : Nat := 0
def CONNECTION_RETRY_MAX_ATTEMPTS : Nat := 5
def CONNECTION_RETRY_MAX_BACKOFF_DELAY_MS : Nat := 5000
def CONNECTION_RETRY_BACKOFF_BASE_MS : Nat := 500

def BackoffAlgorithm_InitializeParams (backOffBase maxBackOff maxAttempts : Nat) : BackoffAlgorithmContext where
  maxBackoffDelay := maxBackOff
  attemptsDone := 0
  nextJitterMax := backOffBase
  maxRetryAttempts := maxAttempts

/-- The next back-off, or none where the retries are exhausted. -/
def BackoffAlgorithm_GetNextBackoff (c : BackoffAlgorithmContext) (randomValue : UInt32) :
    Option (Nat × BackoffAlgorithmContext) :=
  if c.maxRetryAttempts = BACKOFF_ALGORITHM_RETRY_FOREVER ∨ c.attemptsDone < c.maxRetryAttempts then
    some (randomValue.toNat % (c.nextJitterMax + 1),
      { c with
        attemptsDone := c.attemptsDone + 1
        nextJitterMax :=
          if c.nextJitterMax < c.maxBackoffDelay / 2 then c.nextJitterMax + c.nextJitterMax else c.maxBackoffDelay })
  else none

/-- The loop goes round again after the next back-off, if there is one. -/
def waitBackoff : Option (Nat × BackoffAlgorithmContext) → Code (BackoffAlgorithmContext ⊕ Bool)
  | none => return .inr false
  | some (nextRetryBackOff, reconnectParams) => do
    let _ ← act (.Clock_SleepMs nextRetryBackOff)
    return .inl reconnectParams

/-- A turn of the loop of `connectToBrokerWithBackoffRetries`. -/
def connectTurn (reconnectParams : BackoffAlgorithmContext) : Code (BackoffAlgorithmContext ⊕ Bool) := do
  let tlsStatus ← Mbedtls_Pkcs11_Connect
  if tlsStatus = .MBEDTLS_PKCS11_SUCCESS then return .inr true
  else do
    let randomValue : UInt32 ← act .rand
    waitBackoff (BackoffAlgorithm_GetNextBackoff reconnectParams randomValue)

def connectToBrokerWithBackoffRetries : Code Bool := do
  let _ ← act .BackoffAlgorithm_InitializeParams
  Program.repeated connectTurn (BackoffAlgorithm_InitializeParams CONNECTION_RETRY_BACKOFF_BASE_MS
    CONNECTION_RETRY_MAX_BACKOFF_DELAY_MS CONNECTION_RETRY_MAX_ATTEMPTS)

/-- What a structure is after its latest event; a free leaves it as mbedTLS leaves an initialised one, so that
it may be freed once more. -/
inductive Condition where
  | raw
  | ready
  | held
  | released
  | released_twice
deriving DecidableEq

def Condition.freed : Condition → Condition
  | .released | .released_twice => .released_twice
  | _ => .released

def condition (p : Part) : List Event → Condition
  | [] => .raw
  | ⟨.init q, _⟩ :: h => if q = p then .ready else condition p h
  | ⟨.free q, _⟩ :: h => if q = p then (condition p h).freed else condition p h
  | ⟨.call f, _⟩ :: h => if f.fills = some p then .held else condition p h
  | _ :: h => condition p h

/-- The block of the certificate is allocated. -/
def allocated : List Event → Bool
  | [] => false
  | ⟨.malloc_certificate, (ok : Bool)⟩ :: h => ok || allocated h
  | ⟨.free_certificate, _⟩ :: _ => false
  | _ :: h => allocated h

/-- How often a connection has been tried since the back-off started. -/
def attempts : List Event → Nat
  | [] => 0
  | ⟨.BackoffAlgorithm_InitializeParams, _⟩ :: _ => 0
  | ⟨.init .socketContext, _⟩ :: h => attempts h + 1
  | _ :: h => attempts h

/-- Every structure is initialised, and not freed. -/
def Live (h : List Event) : Prop := ∀ p, condition p h = .ready ∨ condition p h = .held

/-- Nothing is held. -/
def Bare (h : List Event) : Prop := (∀ p, condition p h ≠ .held) ∧ allocated h = false

/-- How each action finds the structures: none is initialised over what it holds, freed before it was
initialised or more than twice since, or used before it was initialised or after it was freed, and a connection
that is closed has them all. Between two attempts nothing is held and the delay is in its bounds, and there are
no more than six. -/
def Careful : Action → List Event → Prop
  | .init p, h => condition p h ≠ .held ∧ attempts h + (if p = .socketContext then 1 else 0) ≤ 6
  | .free p, h => condition p h ≠ .raw ∧ condition p h ≠ .released_twice
  | .call f, h => Live h ∧ (f = .mbedtls_ssl_close_notify → ∀ p, condition p h = .held)
  | .mbedtls_ssl_handshake, h => Live h ∧ condition .socketContext h = .held
  | .malloc_certificate, h => allocated h = false
  | .free_certificate, h => allocated h = true
  | .Clock_SleepMs sleepTimeMs, h => Bare h ∧ sleepTimeMs ≤ min (500 * 2 ^ (attempts h - 1)) 5000
  | .BackoffAlgorithm_InitializeParams, h => Bare h
  | _, _ => True

abbrev tls_spec : Spec Action Action.Answer (List Event) := .history Careful

/-- Within an attempt, while the block of the certificate is allocated or not. -/
structure Running (block : Bool) (h : List Event) : Prop where
  live : Live h
  allocated : allocated h = block

/-- What is held stays held, and it is still the same attempt. -/
structure Keeps (h t : List Event) : Prop where
  held : ∀ p, condition p h = .held → condition p t = .held
  attempts : attempts t = attempts h

/-- The code runs within an attempt, and where its result is good it has filled some structures. -/
def Fills {α : Type} (block : Bool) (c : Code α) (good : α → Prop) (S : Part → Prop) : Prop :=
  ∀ h, Running block h →
    c.wp tls_spec (fun x t => (Running block t ∧ Keeps h t) ∧ (good x → ∀ p, S p → condition p t = .held)) h

variable {h t u : List Event} {α β : Type} {S S' : Part → Prop} {p : Part} {block : Bool}

/-- Nothing is given back by doing nothing. -/
theorem Keeps.refl (h : List Event) : Keeps h h := ⟨fun _ h => h, rfl⟩

/-- What is kept twice is kept. -/
theorem Keeps.trans (hk : Keeps h t) (hk' : Keeps t u) : Keeps h u :=
  ⟨fun p hp => hk'.held p (hk.held p hp), hk'.attempts.trans hk.attempts⟩

theorem fills_call (f : Call) (hf : f ≠ .mbedtls_ssl_close_notify) :
    Fills block (call f) (· = true) (fun p => f.fills = some p) := by
  intro h hrun
  refine ⟨⟨hrun.live, fun hclose => absurd hclose hf⟩, ?_⟩
  rintro r _ rfl
  have hcondition (p : Part) : condition p (⟨.call f, r⟩ :: h) =
      if f.fills = some p then .held else condition p h := rfl
  have hrun' : Running block (⟨.call f, r⟩ :: h) := by
    refine ⟨fun p => ?_, hrun.allocated⟩
    rw [hcondition]
    split_ifs
    · exact .inr rfl
    · exact hrun.live p
  have hkeeps : Keeps h (⟨.call f, r⟩ :: h) := by
    refine ⟨fun p hp => ?_, rfl⟩
    rw [hcondition, hp, ite_self]
  refine ⟨⟨hrun', hkeeps⟩, fun _ p hp => ?_⟩
  rw [hcondition, if_pos hp]

theorem fills_ret {good : α → Prop} (x : α) : Fills block (.ret x) good fun _ => False :=
  fun h hrun => ⟨⟨hrun, .refl h⟩, fun _ _ hp => hp.elim⟩

/-- A step that is taken where the one before it has succeeded. -/
theorem fills_if {T : Part → Prop} {c : Code Bool} {k : Code β} {bad : β} {good : β → Prop}
    (hc : Fills block c (· = true) S)
    (hk : Fills block k good T) (hbad : ¬ good bad) :
    Fills block (c.bind fun ok => if ok then k else .ret bad) good fun p => S p ∨ T p := by
  intro h hrun
  refine Program.wp_seq (Program.wp_mono ?_ (hc h hrun))
  rintro ok t ⟨⟨hrun, hkeeps⟩, hheld⟩
  refine Program.wp_ite (fun hok => Program.wp_mono ?_ (hk t hrun)) fun _ => ?_
  · rintro x u ⟨⟨hrun, hkeeps'⟩, hheld'⟩
    refine ⟨⟨hrun, hkeeps.trans hkeeps'⟩, fun hx p hp => ?_⟩
    rcases hp with hp | hp
    · exact hkeeps'.held p (hheld hok p hp)
    · exact hheld' hx p hp
  · exact ⟨⟨hrun, hkeeps⟩, fun hx => absurd hx hbad⟩

theorem fills_andThen {before step : Code Status} (hbefore : Fills block before (· = .MBEDTLS_PKCS11_SUCCESS) S)
    (hstep : Fills block step (· = .MBEDTLS_PKCS11_SUCCESS) S') :
    Fills block (andThen before step) (· = .MBEDTLS_PKCS11_SUCCESS) fun p => S p ∨ S' p := by
  intro h hrun
  refine Program.wp_seq (Program.wp_mono ?_ (hbefore h hrun))
  rintro status t ⟨⟨hrun, hkeeps⟩, hheld⟩
  refine Program.wp_ite (fun hok => Program.wp_mono ?_ (hstep t hrun)) fun hfailed => ?_
  · rintro x u ⟨⟨hrun, hkeeps'⟩, hheld'⟩
    refine ⟨⟨hrun, hkeeps.trans hkeeps'⟩, fun hx p hp => ?_⟩
    rcases hp with hp | hp
    · exact hkeeps'.held p (hheld hok p hp)
    · exact hheld' hx p hp
  · exact ⟨⟨hrun, hkeeps⟩, fun hx => absurd hx hfailed⟩

theorem fills_mono {c : Code α} {good : α → Prop} (hc : Fills block c good S) (hS : ∀ p, S' p → S p) :
    Fills block c good S' := by
  intro h hrun
  refine Program.wp_mono ?_ (hc h hrun)
  rintro x t ⟨hrun, hheld⟩
  exact ⟨hrun, fun hx p hp => hheld hx p (hS p hp)⟩

theorem fills_checked (f : Call) (failure : Status) (hfailure : failure ≠ .MBEDTLS_PKCS11_SUCCESS)
    (hf : f ≠ .mbedtls_ssl_close_notify) :
    Fills block (checked f failure) (· = .MBEDTLS_PKCS11_SUCCESS) fun p => f.fills = some p :=
  fills_mono (fills_if (fills_call f hf) (fills_ret _) hfailure) fun _ => .inl

theorem fills_initializeClientKeys : Fills block initializeClientKeys (· = true) fun _ => False := by
  refine fills_mono (fills_if (fills_call _ nofun)
    (fills_if (fills_call _ nofun) (T := fun _ => False) ?_ nofun) nofun) ?_
  · intro h hrun
    refine Program.wp_history_bind trivial fun keyType => ?_
    have hrun' : Running block (⟨.keyType, keyType⟩ :: h) := ⟨hrun.live, hrun.allocated⟩
    have hkeeps : Keeps h (⟨.keyType, keyType⟩ :: h) := ⟨fun _ hp => hp, rfl⟩
    exact ⟨⟨hrun', hkeeps⟩, fun _ _ hp => hp.elim⟩
  · exact fun _ hp => hp.elim

private theorem fills_decodeCertificate : Fills block decodeCertificate (· = true) (· = .clientCert) := by
  refine fills_mono (fills_if (fills_call _ nofun) (fills_call _ nofun) nofun) ?_
  rintro _ rfl
  exact .inr rfl

private theorem fills_readCertificateIntoContext :
    Fills false readCertificateIntoContext (· = true) (· = .clientCert) := by
  refine fills_mono (fills_if (fills_call _ nofun)
    (fills_if (fills_call _ nofun) (T := (· = .clientCert)) ?_ nofun) nofun) ?_
  · intro h hrun
    refine Program.wp_history_bind hrun.allocated fun (ok : Bool) => ?_
    have hkeeps : Keeps h (⟨.malloc_certificate, ok⟩ :: h) := ⟨fun _ hp => hp, rfl⟩
    cases ok with
    | false =>
      have hrun' : Running false (⟨.malloc_certificate, false⟩ :: h) := ⟨hrun.live, hrun.allocated⟩
      exact ⟨⟨hrun', hkeeps⟩, nofun⟩
    | true =>
      have hrun' : Running true (⟨.malloc_certificate, true⟩ :: h) := ⟨hrun.live, rfl⟩
      refine Program.wp_seq (Program.wp_mono ?_ (fills_decodeCertificate _ hrun'))
      rintro parsed t ⟨⟨hrun'', hkeeps'⟩, hheld⟩
      refine Program.wp_history_bind hrun''.allocated fun _ => ?_
      have hfreed : Running false (⟨.free_certificate, ()⟩ :: t) := ⟨hrun''.live, rfl⟩
      have hkeeps'' : Keeps t (⟨.free_certificate, ()⟩ :: t) := ⟨fun _ hp => hp, rfl⟩
      exact ⟨⟨hfreed, hkeeps.trans (hkeeps'.trans hkeeps'')⟩, hheld⟩
  · intro p hp
    right
    right
    exact hp

theorem fills_configureMbedtlsCertificates :
    Fills false configureMbedtlsCertificates (· = .MBEDTLS_PKCS11_SUCCESS)
      fun p => p = .rootCa ∨ p = .clientCert := by
  refine fills_mono (fills_andThen (fills_andThen (fills_checked _ _ nofun nofun)
    (fills_if fills_initializeClientKeys (fills_ret _) nofun))
    (fills_if fills_readCertificateIntoContext (T := fun _ => False) ?_ nofun)) ?_
  · intro h hrun
    refine Program.wp_seq (Program.wp_mono ?_ (fills_call .mbedtls_ssl_conf_own_cert nofun h hrun))
    rintro ok t ⟨hrun, -⟩
    exact ⟨hrun, fun _ _ hp => hp.elim⟩
  · rintro p (rfl | rfl)
    · exact .inl (.inl rfl)
    · exact .inr (.inl rfl)

/-- All structures are in one condition, and the certificate has no block. -/
structure All (c : Condition) (h : List Event) : Prop where
  condition : ∀ p, condition p h = c
  allocated : allocated h = false

/-- All structures have been initialised, whether or not they have been freed once since. -/
structure Used (h : List Event) : Prop where
  freeable : ∀ p, condition p h ≠ .raw ∧ condition p h ≠ .released_twice
  allocated : allocated h = false

/-- All structures have been freed. -/
structure Over (h : List Event) : Prop where
  freed : ∀ p, condition p h = .released ∨ condition p h = .released_twice
  allocated : allocated h = false

/-- A connection that stands is as one within an attempt, before its certificate has a block. -/
theorem All.running (hall : All .held h) : Running false h := ⟨fun p => .inr (hall.condition p), hall.allocated⟩

/-- Within an attempt every structure has been initialised. -/
theorem Running.used (hrun : Running false h) : Used h := by
  refine ⟨fun p => ?_, hrun.allocated⟩
  rcases hrun.live p with hp | hp
  · rw [hp]
    exact ⟨nofun, nofun⟩
  · rw [hp]
    exact ⟨nofun, nofun⟩

/-- Once all is over, nothing is held. -/
theorem Over.bare (hover : Over h) : Bare h := by
  refine ⟨fun p => ?_, hover.allocated⟩
  rcases hover.freed p with hp | hp
  · rw [hp]
    exact nofun
  · rw [hp]
    exact nofun

/-- Where all is released, all is over. -/
theorem All.over (hall : All .released h) : Over h := ⟨fun p => .inl (hall.condition p), hall.allocated⟩

/-- What has been released has been initialised, and may be freed once more. -/
theorem All.used (hall : All .released h) : Used h := by
  refine ⟨fun p => ?_, hall.allocated⟩
  rw [hall.condition]
  exact ⟨nofun, nofun⟩

theorem wp_contextInit (hbare : Bare h) (hfew : attempts h ≤ 5) :
    contextInit.wp tls_spec (fun _ t => Running false t ∧ attempts t = attempts h + 1) h := by
  refine Program.wp_history_bind ⟨hbare.1 .socketContext, Nat.succ_le_succ hfew⟩ fun _ => ?_
  refine Program.wp_history_bind ⟨hbare.1 .context, Nat.succ_le_succ hfew⟩ fun _ => ?_
  refine Program.wp_history_bind ⟨hbare.1 .config, Nat.succ_le_succ hfew⟩ fun _ => ?_
  refine Program.wp_history_bind ⟨hbare.1 .rootCa, Nat.succ_le_succ hfew⟩ fun _ => ?_
  refine Program.wp_history_bind ⟨hbare.1 .clientCert, Nat.succ_le_succ hfew⟩ fun _ => ?_
  refine ⟨⟨fun p => .inl ?_, hbare.2⟩, rfl⟩
  cases p with
  | _ => rfl

theorem wp_contextFree (hused : Used h) :
    contextFree.wp tls_spec (fun _ t => (∀ p, condition p t = (condition p h).freed) ∧ allocated t = false ∧
      attempts t = attempts h) h := by
  refine Program.wp_history_bind (hused.freeable .socketContext) fun _ => ?_
  refine Program.wp_history_bind (hused.freeable .context) fun _ => ?_
  refine Program.wp_history_bind (hused.freeable .config) fun _ => ?_
  refine Program.wp_history_bind (hused.freeable .rootCa) fun _ => ?_
  refine Program.wp_history_bind (hused.freeable .clientCert) fun _ => ?_
  refine ⟨fun p => ?_, hused.allocated, rfl⟩
  cases p with
  | _ => rfl

/-- Within an attempt the structures are freed for the first time. -/
theorem wp_contextFree_running (hrun : Running false h) :
    contextFree.wp tls_spec (fun _ t => All .released t ∧ attempts t = attempts h) h := by
  refine Program.wp_mono ?_ (wp_contextFree hrun.used)
  rintro _ t ⟨hcondition, hallocated, hattempts⟩
  refine ⟨⟨fun p => ?_, hallocated⟩, hattempts⟩
  rw [hcondition]
  rcases hrun.live p with hp | hp
  · rw [hp]
    rfl
  · rw [hp]
    rfl

theorem wp_contextFree_used (hused : Used h) :
    contextFree.wp tls_spec (fun _ t => Over t ∧ attempts t = attempts h) h := by
  refine Program.wp_mono ?_ (wp_contextFree hused)
  rintro _ t ⟨hcondition, hallocated, hattempts⟩
  refine ⟨⟨fun p => ?_, hallocated⟩, hattempts⟩
  rw [hcondition]
  cases condition p h with
  | released => exact .inr rfl
  | released_twice => exact .inr rfl
  | _ => exact .inl rfl

private theorem wp_configureMbedtls (hbare : Bare h) (hfew : attempts h ≤ 5) :
    configureMbedtls.wp tls_spec (fun x t => attempts t = attempts h + 1 ∧
      (x = .MBEDTLS_PKCS11_SUCCESS → Running false t ∧ ∀ p, p ≠ .socketContext → condition p t = .held) ∧
      (x ≠ .MBEDTLS_PKCS11_SUCCESS → All .released t)) h := by
  refine Program.wp_seq (Program.wp_mono ?_ (wp_contextInit hbare hfew))
  rintro _ t ⟨hrun, hattempts⟩
  have hfills := fills_andThen (fills_andThen (fills_andThen
    (fills_checked .mbedtls_ssl_config_defaults .MBEDTLS_PKCS11_INSUFFICIENT_MEMORY nofun nofun)
    fills_configureMbedtlsCertificates)
    (fills_checked .mbedtls_ssl_set_hostname .MBEDTLS_PKCS11_INTERNAL_ERROR nofun nofun))
    (fills_checked .mbedtls_ssl_setup .MBEDTLS_PKCS11_INTERNAL_ERROR nofun nofun)
  refine Program.wp_seq (Program.wp_mono ?_ (hfills t hrun))
  rintro status u ⟨⟨hrun, hkeeps⟩, hheld⟩
  refine Program.wp_ite (fun hok => ?_) fun hfailed => ?_
  · refine ⟨hkeeps.attempts.trans hattempts, fun _ => ⟨hrun, fun p hp => hheld hok p ?_⟩,
      fun hbad => absurd hok hbad⟩
    cases p with
    | socketContext => exact absurd rfl hp
    | context => exact .inr rfl
    | config => exact .inl (.inl (.inl rfl))
    | rootCa => exact .inl (.inl (.inr (.inl rfl)))
    | clientCert => exact .inl (.inl (.inr (.inr rfl)))
  · refine Program.wp_seq (Program.wp_mono ?_ (wp_contextFree_running hrun))
    rintro _ v ⟨hall, hattempts'⟩
    exact ⟨hattempts'.trans (hkeeps.attempts.trans hattempts), fun hok => absurd hok hfailed, fun _ => hall⟩

private theorem wp_handshake (hall : All .held h) :
    handshake.wp tls_spec (fun _ t => All .held t ∧ attempts t = attempts h) h := by
  refine Program.wp_repeated (fun _ t => All .held t ∧ attempts t = attempts h) ⟨hall, rfl⟩ ?_
  rintro _ t ⟨hall, hattempts⟩
  refine Program.wp_history_bind ⟨hall.running.live, hall.condition .socketContext⟩
    fun (result : Handshake) => ?_
  have hkept : All .held (⟨.mbedtls_ssl_handshake, result⟩ :: t) := ⟨hall.condition, hall.allocated⟩
  cases result with
  | done => exact ⟨hkept, hattempts⟩
  | want => exact ⟨hkept, hattempts⟩
  | failed => exact ⟨hkept, hattempts⟩

/-- The TCP connection is opened once mbedTLS is configured. -/
theorem wp_open (hbare : Bare h) (hfew : attempts h ≤ 5) :
    (andThen configureMbedtls (checked .mbedtls_net_connect .MBEDTLS_PKCS11_CONNECT_FAILURE)).wp tls_spec
      (fun x t => attempts t = attempts h + 1 ∧ (x = .MBEDTLS_PKCS11_SUCCESS → All .held t) ∧ Used t) h := by
  refine Program.wp_seq (Program.wp_mono ?_ (wp_configureMbedtls hbare hfew))
  rintro status t ⟨hattempts, hok, hfailed⟩
  refine Program.wp_ite (fun hs => ?_) fun hs => ⟨hattempts, fun hok => absurd hok hs, (hfailed hs).used⟩
  obtain ⟨hrun, hheld⟩ := hok hs
  refine Program.wp_mono ?_ (fills_checked .mbedtls_net_connect
    .MBEDTLS_PKCS11_CONNECT_FAILURE nofun nofun t hrun)
  rintro status u ⟨⟨hrun, hkeeps⟩, hsocket⟩
  refine ⟨hkeeps.attempts.trans hattempts, fun hs => ⟨fun p => ?_, hrun.allocated⟩, hrun.used⟩
  by_cases hp : p = .socketContext
  · exact hsocket hs p (hp ▸ rfl)
  · exact hkeeps.held p (hheld p hp)

/-- An attempt that succeeds holds everything; one that fails has freed everything. -/
theorem wp_connect (hbare : Bare h) (hfew : attempts h ≤ 5) :
    Mbedtls_Pkcs11_Connect.wp tls_spec (fun x t => attempts t = attempts h + 1 ∧
      (x = .MBEDTLS_PKCS11_SUCCESS → All .held t) ∧ (x ≠ .MBEDTLS_PKCS11_SUCCESS → Over t)) h := by
  refine Program.wp_seq (Program.wp_mono (P := fun x t => attempts t = attempts h + 1 ∧
    (x = .MBEDTLS_PKCS11_SUCCESS → All .held t) ∧ Used t) ?_ ?_)
  · rintro status t ⟨hattempts, hok, hused⟩
    refine Program.wp_ite (fun hs => ⟨hattempts, fun _ => hok hs, fun hbad => absurd hs hbad⟩) fun hs => ?_
    refine Program.wp_seq (Program.wp_mono ?_ (wp_contextFree_used hused))
    rintro _ u ⟨hover, hattempts'⟩
    exact ⟨hattempts'.trans hattempts, fun hok => absurd hok hs, fun _ => hover⟩
  · refine Program.wp_seq (Program.wp_mono ?_ (wp_open hbare hfew))
    rintro status t ⟨hattempts, hok, hused⟩
    refine Program.wp_ite (fun hs => ?_) fun hs => ⟨hattempts, fun hok => absurd hok hs, hused⟩
    refine Program.wp_seq (Program.wp_mono ?_ (wp_handshake (hok hs)))
    rintro ok u ⟨hall, hattempts'⟩
    refine Program.wp_ite (fun _ => ?_) fun _ => ?_
    · refine Program.wp_mono ?_ (fills_checked .mbedtls_ssl_get_verify_result
        .MBEDTLS_PKCS11_HANDSHAKE_FAILED nofun nofun
        u hall.running)
      rintro status v ⟨⟨hrun, hkeeps⟩, -⟩
      have hkept : All .held v := ⟨fun p => hkeeps.held p (hall.condition p), hrun.allocated⟩
      exact ⟨hkeeps.attempts.trans (hattempts'.trans hattempts), fun _ => hkept, hrun.used⟩
    · exact ⟨hattempts'.trans hattempts, nofun, hall.running.used⟩

/-- The disconnection releases every structure of the connection. -/
theorem wp_disconnect (hall : All .held h) :
    Mbedtls_Pkcs11_Disconnect.wp tls_spec (fun _ t => All .released t) h := by
  refine Program.wp_history_bind ⟨hall.running.live, fun _ => hall.condition⟩ fun ok => ?_
  have hkept : All .held (⟨.call .mbedtls_ssl_close_notify, ok⟩ :: h) := ⟨hall.condition, hall.allocated⟩
  refine Program.wp_mono ?_ (wp_contextFree_running hkept.running)
  rintro _ u ⟨hall, -⟩
  exact hall

/-- The context of the back-off after some retries. -/
structure Backoff (c : BackoffAlgorithmContext) : Prop where
  maxBackoffDelay : c.maxBackoffDelay = CONNECTION_RETRY_MAX_BACKOFF_DELAY_MS
  maxRetryAttempts : c.maxRetryAttempts = CONNECTION_RETRY_MAX_ATTEMPTS
  nextJitterMax : c.nextJitterMax = min (500 * 2 ^ c.attemptsDone) 5000
  attemptsDone : c.attemptsDone ≤ CONNECTION_RETRY_MAX_ATTEMPTS

/-- The back-off counts the retry, and waits no longer than its limits allow. -/
theorem backoff_next {c c' : BackoffAlgorithmContext} {randomValue : UInt32}
    {nextBackOff : Nat} (hc : Backoff c)
    (h : BackoffAlgorithm_GetNextBackoff c randomValue = some (nextBackOff, c')) :
    Backoff c' ∧ c'.attemptsDone = c.attemptsDone + 1 ∧ nextBackOff ≤ min (500 * 2 ^ c.attemptsDone) 5000 := by
  obtain ⟨hdelay, hmax, hjitter, hdone⟩ := hc
  unfold BackoffAlgorithm_GetNextBackoff at h
  by_cases hmore : c.maxRetryAttempts = BACKOFF_ALGORITHM_RETRY_FOREVER ∨ c.attemptsDone < c.maxRetryAttempts
  · rw [if_pos hmore] at h
    obtain ⟨rfl, rfl⟩ := Prod.mk.inj (Option.some.inj h)
    rw [hmax] at hmore
    have hlt : c.attemptsDone < CONNECTION_RETRY_MAX_ATTEMPTS := hmore.resolve_left (by decide)
    refine ⟨⟨hdelay, hmax, ?_, hlt⟩, rfl, ?_⟩
    · simp only
      rw [hjitter, hdelay, Nat.pow_succ]
      unfold CONNECTION_RETRY_MAX_BACKOFF_DELAY_MS
      generalize 2 ^ c.attemptsDone = power
      split_ifs
      · omega
      · omega
    · rw [← hjitter]
      exact Nat.le_of_lt_succ (Nat.mod_lt _ (Nat.succ_pos _))
  · rw [if_neg hmore] at h
    cases h

/-- It gives up only after the last retry. -/
theorem backoff_exhausted {c : BackoffAlgorithmContext} {randomValue : UInt32} (hc : Backoff c)
    (h : BackoffAlgorithm_GetNextBackoff c randomValue = none) :
    ¬ c.attemptsDone < CONNECTION_RETRY_MAX_ATTEMPTS := by
  unfold BackoffAlgorithm_GetNextBackoff at h
  split_ifs at h with hmore
  rw [hc.maxRetryAttempts, not_or] at hmore
  exact hmore.2

/-- Before an attempt: nothing is held, and there have been as many attempts as retries. -/
structure Between (c : BackoffAlgorithmContext) (h : List Event) : Prop where
  bare : Bare h
  backoff : Backoff c
  attempts : attempts h = c.attemptsDone

end catbox.tls
