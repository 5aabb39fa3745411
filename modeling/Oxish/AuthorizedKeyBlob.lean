import Oxish.AuthorizedKeyReading
import Oxish.KeyOptionsGrammar
import Oxish.OpenSshKey

/-!
Key blobs of `authorized_keys`. The blob of an accepted line is the encoding of the public key
except for one field: the name of the curve in front of an ECDSA point is passed over without a
look at it.
-/

namespace Oxish

def TaggedPublicKey.content (tagged : TaggedPublicKey) : Bytes :=
  encodeNamed tagged.algorithm ++
    (if tagged.algorithm = .ecdsaSha2Nistp256 then encodeBytes (strBytes "nistp256") else []) ++
    encodeBytes tagged.key

namespace AuthorizedKey

variable {σ ρ : Type}

/-- The second string of a blob, where an ECDSA key names its curve. -/
def curve? (blob : Bytes) : Option Bytes := do
  let ⟨_, next⟩ ← okThen (decodeBytes blob)
  let ⟨curve, _⟩ ← okThen (decodeBytes next)
  some curve

def NamesCurve (algorithm : PublicKeyAlgorithm) (blob : Bytes) : Prop :=
  algorithm = .ecdsaSha2Nistp256 → curve? blob = some (strBytes "nistp256")

section Blobs

variable {provider : CryptoProvider σ ρ} {key : AuthorizedKey} {next value : Bytes}

theorem Built.content_iff (built : Built provider key next value) :
    key.blob = TaggedPublicKey.content ⟨key.algorithm, value⟩ ↔
      NamesCurve key.algorithm key.blob := by
  have bytes := built.bytes
  have named := built.named
  have whole := (decodeBytes_ok named).1
  dsimp only at whole
  rcases built.known with ecdsa | ed25519
  · rw [ecdsa] at bytes
    obtain ⟨curve, behind, first, rfl, _⟩ := keyBytes_ecdsa.mp bytes
    obtain ⟨split, short⟩ := decodeBytes_ok first
    have found : curve? key.blob = some curve := by
      rw [curve?, named]
      simp only [okThen, Option.bind_eq_bind, Option.bind_some, first]
    dsimp only at split short
    have content : TaggedPublicKey.content ⟨key.algorithm, value⟩ =
        encodeBytes (strBytes (Named.name key.algorithm)) ++
          (encodeBytes (strBytes "nistp256") ++ encodeBytes value) := by
      rw [TaggedPublicKey.content, if_pos ecdsa, List.append_assoc]
      rfl
    have spelled : key.blob = TaggedPublicKey.content ⟨key.algorithm, value⟩ ↔
        curve = strBytes "nistp256" := by
      rw [content, whole, split, List.append_cancel_left_eq, List.append_cancel_right_eq,
        encodeBytes_inj short (by decide)]
    rw [spelled, NamesCurve, found, Option.some.injEq]
    exact ⟨fun same _ => same, fun same => same ecdsa⟩
  · rw [ed25519] at bytes
    obtain ⟨rfl, _⟩ := keyBytes_ed25519.mp bytes
    have other : key.algorithm ≠ .ecdsaSha2Nistp256 := by
      rw [ed25519]
      decide
    refine iff_of_true ?_ fun ecdsa => absurd ecdsa other
    rw [whole, TaggedPublicKey.content, if_neg other, List.append_nil]
    rfl

end Blobs

section Lines

theorem trimStart_of_head {char : Char} (plain : whiteSpace char = false) (rest : List Char) :
    trimStart (char :: rest) = char :: rest :=
  List.dropWhile_cons_of_neg (by simp [plain])

theorem trim_between {first last : Char} (starts : whiteSpace first = false)
    (ends : whiteSpace last = false) (middle : List Char) :
    trim (first :: (middle ++ [last])) = first :: (middle ++ [last]) := by
  have reversed : (first :: (middle ++ [last])).reverse = last :: (middle.reverse ++ [first]) := by
    simp
  rw [trim, trimStart_of_head starts, reversed, trimStart_of_head ends, ← reversed,
    List.reverse_reverse]

def blobText (blob : Bytes) : List Char := (asciiText (Base64.encode blob)).toList

theorem blobText_plain {blob : Bytes} {char : Char} (member : char ∈ blobText blob) :
    whiteSpace char = false := by
  rw [blobText, asciiText, String.toList_ofList] at member
  obtain ⟨byte, encoded, rfl⟩ := List.mem_map.mp member
  rcases Base64.mem_encode encoded with rfl | ⟨value, bound, rfl⟩
  · decide
  · clear encoded member
    revert value
    decide

theorem blobText_ne_nil {blob : Bytes} (filled : blob ≠ []) : blobText blob ≠ [] := by
  intro empty
  rw [blobText, asciiText, String.toList_ofList, List.map_eq_nil_iff] at empty
  have read := Base64.decode_encode blob
  rw [empty] at read
  exact filled (Option.some.inj read).symm

theorem strBytes_blobText (blob : Bytes) :
    strBytes (String.ofList (blobText blob)) = Base64.encode blob := by
  rw [blobText, String.ofList_toList]
  exact strBytes_asciiText fun byte member => (armored_encode Base64.standard member).1

def plainEntry (algorithm : PublicKeyAlgorithm) (blob : Bytes) : String :=
  String.ofList ((Named.name algorithm).toList ++ ' ' :: blobText blob)

theorem Known.name {algorithm : PublicKeyAlgorithm} (known : Known algorithm) :
    (∃ first rest, (Named.name algorithm).toList = first :: rest ∧ whiteSpace first = false ∧
      first ≠ '#') ∧
    ((Named.name algorithm).toList.all fun char => !blank char) = true ∧
    Named.typed (Named.name algorithm) = algorithm ∧ ∀ name, algorithm ≠ .unknown name := by
  rcases known with rfl | rfl
  · refine ⟨⟨'e', "cdsa-sha2-nistp256".toList, rfl, rfl, by decide⟩, rfl, rfl, ?_⟩
    intro name same
    cases same
  · refine ⟨⟨'s', "sh-ed25519".toList, rfl, rfl, by decide⟩, rfl, rfl, ?_⟩
    intro name same
    cases same

section PlainEntry

variable {algorithm : PublicKeyAlgorithm} {blob : Bytes}

theorem trim_plainEntry (known : Known algorithm) (filled : blob ≠ []) :
    trim (plainEntry algorithm blob).toList =
      (Named.name algorithm).toList ++ ' ' :: blobText blob := by
  obtain ⟨⟨first, rest, spelled, starts, _⟩, _⟩ := known.name
  obtain ⟨middle, last, written⟩ : ∃ middle last, blobText blob = middle ++ [last] := by
    rcases List.eq_nil_or_concat (blobText blob) with empty | ⟨middle, last, same⟩
    · exact absurd empty (blobText_ne_nil filled)
    · exact ⟨middle, last, same.trans (List.concat_eq_append ..)⟩
  have ends : whiteSpace last = false := blobText_plain (by rw [written]; simp)
  rw [plainEntry, String.toList_ofList, spelled, written]
  simpa using trim_between starts ends (rest ++ ' ' :: middle)

theorem parse_plainEntry (known : Known algorithm) (filled : blob ≠ []) :
    KeyOptions.parse (trim (plainEntry algorithm blob).toList) =
      ⟨{}, some algorithm, blobText blob⟩ := by
  obtain ⟨_, every, typed, other⟩ := known.name
  have clear : ∀ char ∈ (Named.name algorithm).toList, blank char = false := by
    intro char member
    simpa using List.all_eq_true.mp every char member
  have words : KeyOptions.token ((Named.name algorithm).toList ++ ' ' :: blobText blob) =
      ((Named.name algorithm).toList, blobText blob) := KeyOptions.token_append clear rfl _
  have reads : KeyOptions.Reads ((Named.name algorithm).toList ++ ' ' :: blobText blob) {} algorithm
      (KeyOptions.token ((Named.name algorithm).toList ++ ' ' :: blobText blob)).2 := by
    refine .bare ?_ other
    rw [words, String.ofList_toList, typed]
  rw [words] at reads
  rw [trim_plainEntry known filled, KeyOptions.parse_iff_reads]
  exact reads

theorem keyText_plainEntry (known : Known algorithm) (filled : blob ≠ []) :
    keyText (plainEntry algorithm blob) = blobText blob := by
  rw [keyText, parse_plainEntry known filled]
  obtain ⟨head, tail, split⟩ := List.exists_cons_of_ne_nil (blobText_ne_nil filled)
  have plain : whiteSpace head = false := blobText_plain (by rw [split]; simp)
  have untrimmed : trimStart (blobText blob) = blobText blob := by
    rw [split, trimStart_of_head plain]
  rw [untrimmed, List.takeWhile_eq_self_iff]
  intro char member
  simp [blobText_plain member]

theorem carries_plainEntry {base64 : Bytes → Option Bytes}
    (decodes : ∀ data, base64 (Base64.encode data) = some data) (known : Known algorithm)
    (filled : blob ≠ []) : Carries base64 (plainEntry algorithm blob) {} algorithm blob := by
  have word := keyText_plainEntry known filled
  constructor
  case entry =>
    obtain ⟨⟨first, rest, spelled, _, uncommented⟩, _⟩ := known.name
    rw [trim_plainEntry known filled, spelled]
    simp [uncommented]
  case options => rw [parse_plainEntry known filled]
  case keyType => rw [parse_plainEntry known filled]
  case text =>
    rw [word]
    exact blobText_ne_nil filled
  case decoded => rw [word, strBytes_blobText, decodes]

end PlainEntry

end Lines

section Encodings

theorem encodeNamed_ne_nil {α : Type} [Named α] (value : α) : encodeNamed value ≠ [] := by
  intro empty
  have length := congrArg List.length empty
  simp [encodeNamed] at length

theorem keyBytes_behind_curve {curve : Bytes} (short : curve.length < 2 ^ 32) (rest : Bytes) :
    keyBytes .ecdsaSha2Nistp256 (encodeBytes curve ++ rest) = keyBytes .ed25519 rest := by
  unfold keyBytes
  rw [decodeBytes_encodeBytes short]
  rfl

theorem keyBytes_encodeBytes (data : Bytes) :
    keyBytes .ed25519 (encodeBytes data) = if data.length < 2 ^ 32 then some data else none := by
  by_cases short : data.length < 2 ^ 32
  · rw [if_pos short]
    exact keyBytes_ed25519.mpr ⟨rfl, short⟩
  · rw [if_neg short]
    apply Option.eq_none_iff_forall_not_mem.mpr
    intro value found
    obtain ⟨same, fits⟩ := keyBytes_ed25519.mp found
    have read := decodeBytes_encodeBytes_nil fits
    rw [← same] at read
    exact short (decodeBytes_whole read).2

theorem keyBytes_content {algorithm : PublicKeyAlgorithm} (known : Known algorithm) (data : Bytes) :
    keyBytes algorithm
        ((if algorithm = .ecdsaSha2Nistp256 then encodeBytes (strBytes "nistp256") else []) ++
          encodeBytes data) =
      if data.length < 2 ^ 32 then some data else none := by
  have curve : (strBytes "nistp256").length < 2 ^ 32 := by decide
  rcases known with rfl | rfl
  · rw [if_pos rfl, keyBytes_behind_curve curve, keyBytes_encodeBytes]
  · rw [if_neg (by decide), List.nil_append, keyBytes_encodeBytes]

variable {provider : CryptoProvider σ ρ}

theorem ofBlob_content {algorithm : PublicKeyAlgorithm} (known : Known algorithm) {data : Bytes}
    {verifying : VerifyingKey} (verifies : provider.verifyingKey data algorithm = .ok verifying)
    (options : KeyOptions) :
    ofBlob options algorithm (TaggedPublicKey.content ⟨algorithm, data⟩) provider =
      if data.length < 2 ^ 32 then
        some ⟨algorithm, TaggedPublicKey.content ⟨algorithm, data⟩, verifying, options⟩
      else none := by
  have named : decodeBytes (TaggedPublicKey.content ⟨algorithm, data⟩) =
      .ok ⟨strBytes (Named.name algorithm),
        (if algorithm = .ecdsaSha2Nistp256 then encodeBytes (strBytes "nistp256") else []) ++
          encodeBytes data⟩ := by
    rw [TaggedPublicKey.content, List.append_assoc]
    apply decodeBytes_encodeBytes
    dsimp only
    rcases known with rfl | rfl
    · decide
    · decide
  unfold ofBlob
  rw [named]
  simp only [okThen, Option.bind_eq_bind, Option.bind_some]
  rw [if_neg (not_not.mpr rfl), verifyingKey_eq, keyBytes_content known]
  by_cases short : data.length < 2 ^ 32
  · rw [if_pos short, if_pos short, Option.bind_some, verifies]
    rfl
  · rw [if_neg short, if_neg short]
    rfl

def curveBlob (curve data : Bytes) : Bytes :=
  encodeNamed PublicKeyAlgorithm.ecdsaSha2Nistp256 ++ (encodeBytes curve ++ encodeBytes data)

theorem decodeBytes_curveBlob (curve data : Bytes) :
    decodeBytes (curveBlob curve data) =
      .ok ⟨strBytes "ecdsa-sha2-nistp256", encodeBytes curve ++ encodeBytes data⟩ :=
  decodeBytes_encodeBytes (by decide) _

theorem curve_curveBlob {curve : Bytes} (short : curve.length < 2 ^ 32) (data : Bytes) :
    curve? (curveBlob curve data) = some curve := by
  have first := okThen_eq_some.mpr (decodeBytes_curveBlob curve data)
  have second := okThen_eq_some.mpr (decodeBytes_encodeBytes short (encodeBytes data))
  unfold curve?
  rw [first, Option.bind_eq_bind, Option.bind_some]
  dsimp only
  rw [second, Option.bind_some]

theorem curveBlob_ne_nil (curve data : Bytes) : curveBlob curve data ≠ [] :=
  List.append_ne_nil_of_left_ne_nil (encodeNamed_ne_nil _) _

theorem built_curveBlob {curve data : Bytes} (curveShort : curve.length < 2 ^ 32)
    (dataShort : data.length < 2 ^ 32) {verifying : VerifyingKey}
    (verifies : provider.verifyingKey data .ecdsaSha2Nistp256 = .ok verifying)
    (options : KeyOptions) :
    Built provider ⟨.ecdsaSha2Nistp256, curveBlob curve data, verifying, options⟩
      (encodeBytes curve ++ encodeBytes data) data := by
  refine ⟨decodeBytes_curveBlob curve data, ?_, verifies⟩
  rw [keyBytes_behind_curve curveShort, keyBytes_encodeBytes, if_pos dataShort]

theorem fromStr_curveBlob {base64 : Bytes → Option Bytes}
    (decodes : ∀ data, base64 (Base64.encode data) = some data) {curve data : Bytes}
    (curveShort : curve.length < 2 ^ 32) (dataShort : data.length < 2 ^ 32)
    {verifying : VerifyingKey}
    (verifies : provider.verifyingKey data .ecdsaSha2Nistp256 = .ok verifying) :
    fromStr base64 (plainEntry .ecdsaSha2Nistp256 (curveBlob curve data)) provider =
      some ⟨.ecdsaSha2Nistp256, curveBlob curve data, verifying, {}⟩ := by
  rw [fromStr_of_carries (carries_plainEntry decodes (.inl rfl) (curveBlob_ne_nil curve data))]
  exact ofBlob_eq_some.mpr
    ⟨⟨rfl, rfl, rfl⟩, _, _, built_curveBlob curveShort dataShort verifies {}⟩

theorem content_ne_nil (tagged : TaggedPublicKey) : tagged.content ≠ [] := by
  rw [TaggedPublicKey.content, List.append_assoc]
  exact List.append_ne_nil_of_left_ne_nil (encodeNamed_ne_nil _) _

theorem Built.unique {key other : AuthorizedKey} {next value otherNext otherValue : Bytes}
    (built : Built provider key next value) (otherBuilt : Built provider other otherNext otherValue)
    (algorithm : key.algorithm = other.algorithm) (blob : key.blob = other.blob) :
    key.key = other.key := by
  have bytes := built.handed
  rw [algorithm, blob, otherBuilt.handed] at bytes
  cases bytes
  have verifies := built.verifies
  rw [algorithm, otherBuilt.verifies, Except.ok.injEq] at verifies
  exact verifies.symm

end Encodings

/-- What a line's blob is worth. The reader hands its last string to the provider; the blob is the
encoding of that key exactly when an ECDSA blob names the curve. Encodings are accepted. Keys that
match the same offer are the same key, and blobs that name the curve are determined by their key. -/
theorem blob_exact_iff {base64 : Bytes → Option Bytes}
    (decodes : ∀ data, base64 (Base64.encode data) = some data) (provider : CryptoProvider σ ρ) :
    (∀ line key, fromStr base64 line provider = some key →
      ∃ data, handedBytes key.algorithm key.blob = some data ∧
        provider.verifyingKey data key.algorithm = .ok key.key ∧
        (key.blob = TaggedPublicKey.content ⟨key.algorithm, data⟩ ↔
          NamesCurve key.algorithm key.blob)) ∧
    (∀ algorithm data verifying, Known algorithm →
      provider.verifyingKey data algorithm = .ok verifying →
      Carries base64 (plainEntry algorithm (TaggedPublicKey.content ⟨algorithm, data⟩)) {} algorithm
        (TaggedPublicKey.content ⟨algorithm, data⟩) ∧
      ∀ line options,
        Carries base64 line options algorithm (TaggedPublicKey.content ⟨algorithm, data⟩) →
        fromStr base64 line provider =
          if data.length < 2 ^ 32 then
            some ⟨algorithm, TaggedPublicKey.content ⟨algorithm, data⟩, verifying, options⟩
          else none) ∧
    (∀ line other key otherKey offered, fromStr base64 line provider = some key →
      fromStr base64 other provider = some otherKey → key.matchesKey offered = true →
      otherKey.matchesKey offered = true → key.key = otherKey.key) ∧
    ∀ line other key otherKey, fromStr base64 line provider = some key →
      fromStr base64 other provider = some otherKey → NamesCurve key.algorithm key.blob →
      NamesCurve otherKey.algorithm otherKey.blob → key.algorithm = otherKey.algorithm →
      handedBytes key.algorithm key.blob = handedBytes otherKey.algorithm otherKey.blob →
      key.blob = otherKey.blob := by
  refine ⟨?_, ?_, ?_, ?_⟩
  · intro line key accepted
    obtain ⟨_, next, value, built⟩ := fromStr_carries accepted
    exact ⟨value, built.handed, built.verifies, built.content_iff⟩
  · intro algorithm data verifying known verifies
    refine ⟨carries_plainEntry decodes known (content_ne_nil _), ?_⟩
    intro line options carries
    rw [fromStr_of_carries carries, ofBlob_content known verifies]
  · intro line other key otherKey offered accepted otherAccepted same otherSame
    obtain ⟨_, _, _, built⟩ := fromStr_carries accepted
    obtain ⟨_, _, _, otherBuilt⟩ := fromStr_carries otherAccepted
    simp only [matchesKey, Bool.and_eq_true, beq_iff_eq] at same otherSame
    exact built.unique otherBuilt (same.1.trans otherSame.1.symm) (same.2.trans otherSame.2.symm)
  · intro line other key otherKey accepted otherAccepted curve otherCurve algorithm handed
    obtain ⟨_, _, _, built⟩ := fromStr_carries accepted
    obtain ⟨_, _, _, otherBuilt⟩ := fromStr_carries otherAccepted
    rw [built.handed, otherBuilt.handed, Option.some.injEq] at handed
    rw [built.content_iff.mpr curve, otherBuilt.content_iff.mpr otherCurve, algorithm, handed]

def pointKey (curve : String) : AuthorizedKey where
  algorithm := .ecdsaSha2Nistp256
  blob := curveBlob (strBytes curve) [4]
  key := Primitives.verifyingKeyOf (plainPrimitives.ecdsaVerifies [4])
  options := {}

theorem fromStr_pointKey {curve : String} (short : (strBytes curve).length < 2 ^ 32) :
    fromStr Base64.decode (plainEntry .ecdsaSha2Nistp256 (curveBlob (strBytes curve) [4]))
      plainProvider = some (pointKey curve) :=
  fromStr_curveBlob Base64.decode_encode short (by decide) rfl

theorem handedBytes_pointKey {curve : String} (short : (strBytes curve).length < 2 ^ 32) :
    handedBytes (pointKey curve).algorithm (pointKey curve).blob = some [4] := by
  have verifies : plainProvider.verifyingKey [4] .ecdsaSha2Nistp256 = .ok (pointKey curve).key := rfl
  exact (built_curveBlob short (by decide) verifies {}).handed

theorem blob_exact_iff_point :
    (∃ data, handedBytes .ecdsaSha2Nistp256 (pointKey "nistp256").blob = some data ∧
      plainProvider.verifyingKey data .ecdsaSha2Nistp256 = .ok (pointKey "nistp256").key ∧
      ((pointKey "nistp256").blob = TaggedPublicKey.content ⟨.ecdsaSha2Nistp256, data⟩ ↔
        NamesCurve .ecdsaSha2Nistp256 (pointKey "nistp256").blob)) ∧
    Carries Base64.decode (plainEntry .ed25519 (TaggedPublicKey.content ⟨.ed25519, [7]⟩)) {} .ed25519
      (TaggedPublicKey.content ⟨.ed25519, [7]⟩) ∧
    (∀ line key, fromStr Base64.decode line plainProvider = some key →
      key.matchesKey ⟨.ecdsaSha2Nistp256, (pointKey "nistp256").blob, none⟩ = true →
      key.key = (pointKey "nistp256").key) ∧
    ∀ line key, fromStr Base64.decode line plainProvider = some key →
      NamesCurve key.algorithm key.blob → key.algorithm = .ecdsaSha2Nistp256 →
      handedBytes key.algorithm key.blob = some [4] → key.blob = (pointKey "nistp256").blob := by
  have short : (strBytes "nistp256").length < 2 ^ 32 := by decide
  have accepted := fromStr_pointKey short
  have named : NamesCurve (pointKey "nistp256").algorithm (pointKey "nistp256").blob :=
    fun _ => curve_curveBlob short [4]
  obtain ⟨encoded, carried, same, unique⟩ := blob_exact_iff Base64.decode_encode plainProvider
  refine ⟨encoded _ _ accepted, (carried .ed25519 [7] _ (.inr rfl) rfl).1, ?_, ?_⟩
  · intro line key read offered
    exact same line _ key _ _ read accepted offered (by decide)
  · intro line key read curve algorithm handed
    exact unique line _ key _ read accepted curve named algorithm
      (handed.trans (handedBytes_pointKey short).symm)

/-- A blob that names another curve is accepted with the same key, so it is no encoding of a key
and two blobs stand for one. -/
theorem curve_not_checked :
    (¬ ∀ line key, fromStr Base64.decode line plainProvider = some key →
      ∃ data, handedBytes key.algorithm key.blob = some data ∧
        key.blob = TaggedPublicKey.content ⟨key.algorithm, data⟩) ∧
    ∃ line other key otherKey, fromStr Base64.decode line plainProvider = some key ∧
      fromStr Base64.decode other plainProvider = some otherKey ∧
      key.algorithm = otherKey.algorithm ∧
      handedBytes key.algorithm key.blob = handedBytes otherKey.algorithm otherKey.blob ∧
      key.blob ≠ otherKey.blob := by
  have first : (strBytes "nistp256").length < 2 ^ 32 := by decide
  have second : (strBytes "nistp384").length < 2 ^ 32 := by decide
  have found : curve? (pointKey "nistp384").blob = some (strBytes "nistp384") :=
    curve_curveBlob second [4]
  constructor
  · intro every
    obtain ⟨data, handed, same⟩ := every _ _ (fromStr_pointKey second)
    have wrong : curve? (TaggedPublicKey.content ⟨.ecdsaSha2Nistp256, data⟩) =
        some (strBytes "nistp256") := by
      rw [handedBytes_pointKey second] at handed
      cases handed
      exact curve_curveBlob first [4]
    rw [same] at found
    exact absurd (wrong.symm.trans found) (by decide)
  · refine ⟨_, _, _, _, fromStr_pointKey first, fromStr_pointKey second, rfl, ?_, ?_⟩
    · rw [handedBytes_pointKey first, handedBytes_pointKey second]
    · decide

end AuthorizedKey

end Oxish
