import Oxish.CryptoCore

/-!
Public key authentication in the protocol crate: authorized keys and the options in front of
them, authentication requests, and signatures. Text is a list of characters. The base64
decoder belongs to a library and is a parameter.
-/

namespace Oxish

variable {σ ρ : Type}

-- The Unicode White_Space property, which `trim` and `split_whitespace` go by.
def whiteSpace (char : Char) : Bool :=
  let code := char.toNat
  (9 ≤ code && code ≤ 13) || code == 0x20 || code == 0x85 || code == 0xA0 || code == 0x1680 ||
    (0x2000 ≤ code && code ≤ 0x200A) || code == 0x2028 || code == 0x2029 || code == 0x202F ||
    code == 0x205F || code == 0x3000

def trimStart (text : List Char) : List Char := text.dropWhile whiteSpace

def trim (text : List Char) : List Char := (trimStart (trimStart text).reverse).reverse

def splitOnceAt (separator : Char → Bool) : List Char → Option (List Char × List Char)
  | [] => none
  | char :: rest =>
    if separator char then some ([], rest)
    else (splitOnceAt separator rest).map fun (before, after) => (char :: before, after)

def blank (char : Char) : Bool := char == ' ' || char == '\t'

structure KeyOptions where
  command : Option String := none
  deriving DecidableEq, Repr

namespace KeyOptions

-- The value of an option after its opening quote. A failure keeps the text it stopped at.
-- Every round passes a quote, so the length of the text bounds the rounds.
def quotedValue : Nat → List Char → List Char → Except (List Char) (List Char × List Char)
  | 0, _, rest => .error rest
  | rounds + 1, value, rest =>
    match splitOnceAt (· == '"') rest with
    | none => .error rest
    | some (literal, next) =>
      match literal.getLast? with
      | some '\\' => quotedValue rounds (value ++ literal.dropLast ++ ['"']) next
      | _ => .ok (value ++ literal, next)

structure Parsed where
  options : KeyOptions
  algorithm : Option PublicKeyAlgorithm
  rest : List Char

def parseOptions : Nat → KeyOptions → List Char → Parsed
  | 0, options, rest => ⟨options, none, rest⟩
  | rounds + 1, options, rest =>
    let ends := fun char => char == '=' || char == ',' || blank char
    let name := rest.takeWhile fun char => !ends char
    let next := rest.dropWhile fun char => !ends char
    let value : Except (List Char) (Option (List Char) × List Char) :=
      match next with
      | '=' :: '"' :: quoted =>
        (quotedValue (quoted.length + 1) [] quoted).map fun (value, next) => (some value, next)
      | '=' :: _ => .error rest
      | _ => .ok (none, next)
    match value with
    | .error stopped => ⟨options, none, stopped⟩
    | .ok (value, next) =>
      match String.ofList (name.map Char.toLower), value, options.command with
      | "command", some command, none =>
        let options := { options with command := some (String.ofList command) }
        match next with
        | ',' :: next => parseOptions rounds options next
        | char :: _ =>
          if blank char then keyType options (trimStart next) else ⟨options, none, next⟩
        | [] => keyType options []
      | _, _, _ => ⟨options, none, rest⟩
where
  keyType (options : KeyOptions) (rest : List Char) : Parsed :=
    let (keyType, rest) := (splitOnceAt blank rest).getD (rest, [])
    if keyType.isEmpty then ⟨options, none, rest⟩
    else ⟨options, some (Named.typed (String.ofList keyType)), rest⟩

def parse (text : List Char) : Parsed :=
  let (first, next) := (splitOnceAt blank text).getD (text, [])
  match (Named.typed (String.ofList first) : PublicKeyAlgorithm) with
  | .unknown _ => parseOptions (text.length + 1) {} text
  | algorithm => ⟨{}, some algorithm, next⟩

def encode (options : KeyOptions) : Bytes :=
  match options.command with
  | some command => encodeBool true ++ encodeBytes (strBytes command)
  | none => encodeBool false

def decode (bytes : Bytes) : Except ProtoError (Decoded KeyOptions) := do
  let ⟨hasCommand, next⟩ ← decodeBool bytes
  if hasCommand then
    let ⟨command, next⟩ ← decodeBytes next
    match fromUtf8 command with
    | none => .error (.invalidPacket "invalid UTF-8 in forced command")
    | some command => .ok ⟨{ command := some command }, next⟩
  else .ok ⟨{ command := none }, next⟩

end KeyOptions

structure Signature where
  algorithm : PublicKeyAlgorithm
  signatureBlob : Bytes
  deriving DecidableEq, Repr

structure PublicKey where
  algorithm : PublicKeyAlgorithm
  keyBlob : Bytes
  signature : Option Signature
  deriving DecidableEq, Repr

structure AuthorizedKey where
  algorithm : PublicKeyAlgorithm
  blob : Bytes
  key : VerifyingKey
  options : KeyOptions

namespace AuthorizedKey

def okThen {ε α : Type} : Except ε α → Option α
  | .ok value => some value
  | .error _ => none

def verifyingKey (algorithm : PublicKeyAlgorithm) (data : Bytes) (provider : CryptoProvider σ ρ) :
    Option VerifyingKey :=
  match algorithm with
  | .ecdsaSha2Nistp256 => do
    let ⟨_, next⟩ ← okThen (decodeBytes data)
    let ⟨value, next⟩ ← okThen (decodeBytes next)
    if next.isEmpty then okThen (provider.verifyingKey value algorithm) else none
  | .ed25519 => do
    let ⟨value, next⟩ ← okThen (decodeBytes data)
    if next.isEmpty then okThen (provider.verifyingKey value algorithm) else none
  | .unknown _ => none

def fromStr (base64 : Bytes → Option Bytes) (text : String) (provider : CryptoProvider σ ρ) :
    Option AuthorizedKey :=
  let text := trim text.toList
  match text with
  | [] | '#' :: _ => none
  | _ => do
    let ⟨options, algorithm, rest⟩ := KeyOptions.parse text
    let algorithm ← algorithm
    let keyData := (trimStart rest).takeWhile fun char => !whiteSpace char
    if keyData.isEmpty then none
    else
      let blob ← base64 (strBytes (String.ofList keyData))
      let ⟨keyType, next⟩ ← okThen (decodeBytes blob)
      if keyType ≠ strBytes (Named.name algorithm) then none
      else
        let key ← verifyingKey algorithm next provider
        some { algorithm, blob, key, options }

def verify (authorizedKey : AuthorizedKey) (message signature : Bytes) : Except ProtoError Unit :=
  match authorizedKey.key.verify message signature with
  | .ok () => .ok ()
  | .error _ => .error (.invalidPacket "invalid signature")

def matchesKey (authorizedKey : AuthorizedKey) (publicKey : PublicKey) : Bool :=
  authorizedKey.algorithm == publicKey.algorithm && authorizedKey.blob == publicKey.keyBlob

end AuthorizedKey

def mpintToFixed (mpint : Bytes) (width : Nat) : Option Bytes :=
  let data := match mpint with
    | 0 :: byte :: rest => byte :: rest
    | _ => mpint
  if data.length ≤ width then some (List.replicate (width - data.length) 0 ++ data) else none

namespace Signature

def encode (signature : Signature) : Except ProtoError Bytes :=
  match signature.algorithm with
  | .ecdsaSha2Nistp256 => do
    let ⟨r, rest⟩ ← decodeBytes signature.signatureBlob
    let ⟨s, next⟩ ← decodeBytes rest
    if next.isEmpty then
      match mpintToFixed r 32 with
      | none => .error (.invalidPacket "failure to decode r in ECDSA signature")
      | some r =>
        match mpintToFixed s 32 with
        | none => .error (.invalidPacket "failure to decode s in ECDSA signature")
        | some s => .ok (r ++ s)
    else .error (.invalidPacket "extra data after ECDSA signature components")
  | .ed25519 => .ok signature.signatureBlob
  | .unknown _ => .error (.invalidPacket "unsupported public key algorithm for verification")

def decode (input : Bytes) : Except ProtoError (Decoded Signature) := do
  let ⟨input, next⟩ ← decodeBytes input
  if next.isEmpty then
    let ⟨algorithm, next⟩ ← decodeNamed input
    let ⟨signatureBlob, next⟩ ← decodeBytes next
    if next.isEmpty then .ok ⟨{ algorithm, signatureBlob }, next⟩
    else .error (.invalidPacket "extra data in signature blob")
  else .error (.invalidPacket "extra data in signature data")

end Signature

def PublicKey.decode (input : Bytes) : Except ProtoError (Decoded PublicKey) := do
  let ⟨hasSignature, next⟩ ← decodeBool input
  let ⟨algorithm, next⟩ ← decodeNamed next
  let ⟨keyBlob, next⟩ ← decodeBytes next
  match hasSignature, next.isEmpty with
  | false, true => .ok ⟨{ algorithm, keyBlob, signature := none }, next⟩
  | false, false => .error (.invalidPacket "trailing bytes in public key auth without signature")
  | true, _ =>
    let ⟨signature, next⟩ ← Signature.decode next
    if next.isEmpty then .ok ⟨{ algorithm, keyBlob, signature := some signature }, next⟩
    else .error (.invalidPacket "trailing bytes in public key auth with signature")

inductive Method where
  | publicKey (publicKey : PublicKey)
  | none
  deriving DecidableEq, Repr

structure UserAuthRequest where
  userName : String
  serviceName : ServiceName
  method : Method

def UserAuthRequest.tryFrom (packet : IncomingPacket) : Except ProtoError UserAuthRequest := do
  packet.expect [.userAuthRequest]
  let ⟨userName, next⟩ ← decodeBytes packet.payload
  match fromUtf8 userName with
  | none => .error (.invalidPacket "invalid UTF-8 in user name")
  | some userName =>
    let ⟨serviceName, next⟩ ← decodeNamed next
    let ⟨methodName, next⟩ ← (decodeNamed next : Except ProtoError (Decoded MethodName))
    let method ← match methodName with
      | .publicKey => do
        let ⟨publicKey, next⟩ ← PublicKey.decode next
        if next.isEmpty then .ok (Method.publicKey publicKey)
        else .error (.invalidPacket "trailing bytes in public key auth request")
      | .none =>
        if next.isEmpty then .ok Method.none
        else .error (.invalidPacket "unexpected data after none auth method")
      | _ => .error (.invalidPacket "unsupported authentication method")
    .ok { userName, serviceName, method }

structure UserAuthFailure where
  canContinue : List MethodName
  partialSuccess : Bool

def UserAuthFailure.encode (failure : UserAuthFailure) : Bytes :=
  MessageType.userAuthFailure.encode ++ OutgoingNameList.encode failure.canContinue ++
    encodeBool failure.partialSuccess

structure UserAuthPkOk where
  algorithm : PublicKeyAlgorithm
  keyBlob : Bytes

def UserAuthPkOk.encode (pkOk : UserAuthPkOk) : Bytes :=
  MessageType.userAuthPkOk.encode ++ encodeNamed pkOk.algorithm ++ encodeBytes pkOk.keyBlob

structure SignatureData where
  sessionId : Bytes
  userName : String
  serviceName : ServiceName
  algorithm : PublicKeyAlgorithm
  publicKey : Bytes

def SignatureData.encode (data : SignatureData) : Bytes :=
  encodeBytes data.sessionId ++ MessageType.userAuthRequest.encode ++
    encodeBytes (strBytes data.userName) ++ encodeNamed data.serviceName ++
    encodeNamed MethodName.publicKey ++ encodeBool true ++ encodeNamed data.algorithm ++
    encodeBytes data.publicKey

structure ServiceAccept where
  serviceName : ServiceName

def ServiceAccept.encode (accept : ServiceAccept) : Bytes :=
  MessageType.serviceAccept.encode ++ encodeNamed accept.serviceName

structure ServiceRequest where
  serviceName : ServiceName

def ServiceRequest.tryFrom (packet : IncomingPacket) : Except ProtoError ServiceRequest := do
  packet.expect [.serviceRequest]
  let ⟨serviceName, next⟩ ← decodeNamed packet.payload
  if next.isEmpty then .ok { serviceName }
  else .error (.invalidPacket "extra data in service request")

end Oxish
