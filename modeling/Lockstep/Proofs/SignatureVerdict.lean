import Lockstep.Curve.Verification
import Lockstep.Proofs.CurveGroup

/-!
When a signature is accepted, refused or not decided.

The rule of ECDSA is stated over the group of the curve, and the verdict on two numbers follows it
except that there is none where the point it depends on is at infinity. What is documented of a
library for keys and signatures is a hypothesis, which the functions on secp256k1 fulfil. Byte
strings stand for at most one signature, so the verdict on bytes is the verdict on what they stand
for. Bytes that begin like DER are never taken for two plain numbers, which is where valid
signatures are refused.
-/

namespace Lockstep.Curve

instance : Fact order.Prime := ⟨order_prime⟩

namespace Signature

variable {signature : Signature} {key : Point} {message : Nat}

/-- The point on which the verdict on a signature of a message depends. Whoever made the signature
knows it as a multiple of the generator. -/
noncomputable def decisivePoint (signature : Signature) (key : weierstrass.Point) (message : Nat) :
    weierstrass.Point :=
  ((message : ZMod order) / signature.s).val • generator.inGroup +
    ((signature.r : ZMod order) / signature.s).val • key

/-- The rule of ECDSA: both numbers are in range, and the first is the first coordinate of the
decisive point, reduced by the order. -/
def Verifies (signature : Signature) (key : weierstrass.Point) (message : Nat) : Prop :=
  signature.isInRange = true ∧ ∃ x y hpoint,
    signature.decisivePoint key message = .some x y hpoint ∧ x.val % order = signature.r

theorem cast_s_ne_zero (hrange : signature.isInRange = true) :
    (signature.s : ZMod order) ≠ 0 := by
  simp only [isInRange, Bool.and_eq_true, decide_eq_true_eq] at hrange
  rw [Ne, ZMod.natCast_eq_zero_iff]
  exact Nat.not_dvd_of_pos_of_lt hrange.1.2 hrange.2

theorem mul_invMod_mod (hrange : signature.isInRange = true) (number : Nat) :
    number * invMod signature.s order % order =
      ((number : ZMod order) / signature.s).val := by
  rw [← ZMod.val_natCast, Nat.cast_mul, cast_invMod order_prime (cast_s_ne_zero hrange),
    div_eq_mul_inv]

theorem represents_decisivePoint (hrange : signature.isInRange = true)
    (hkey : key.isOnCurve = true) (message : Nat) :
    ((Projective.multiple (message * invMod signature.s order % order)
        (.ofPoint generator)).add
      (Projective.multiple (signature.r * invMod signature.s order % order)
        (.ofPoint key))).Represents (signature.decisivePoint key.inGroup message) := by
  rw [mul_invMod_mod hrange, mul_invMod_mod hrange]
  exact Projective.represents_add
    (Projective.represents_multiple (Point.represents_ofPoint Point.isOnCurve_generator) _)
    (Projective.represents_multiple (Point.represents_ofPoint hkey) _)

theorem verify_of_decisivePoint_eq_zero (hrange : signature.isInRange = true)
    (hkey : key.isOnCurve = true) (hzero : signature.decisivePoint key.inGroup message = 0) :
    signature.verify key message = .error .pointAtInfinity := by
  have hrepresents := represents_decisivePoint hrange hkey message
  rw [hzero] at hrepresents
  simp only [verify, hrange, Bool.not_true, Bool.false_eq_true, ↓reduceIte,
    Projective.toPoint?_of_represents_zero hrepresents]

theorem verify_of_decisivePoint_eq_some (hrange : signature.isInRange = true)
    (hkey : key.isOnCurve = true) {x y : ZMod prime} {hpoint : weierstrass.Nonsingular x y}
    (hsome : signature.decisivePoint key.inGroup message = .some x y hpoint) :
    signature.verify key message = .ok (x.val % order == signature.r) := by
  have hrepresents := represents_decisivePoint hrange hkey message
  rw [hsome] at hrepresents
  simp only [verify, hrange, Bool.not_true, Bool.false_eq_true, ↓reduceIte,
    Projective.toPoint?_of_hasCoordinates hrepresents]

theorem verify_of_not_isInRange (hrange : signature.isInRange = false) :
    signature.verify key message = .ok false := by
  simp [verify, hrange]

theorem verify_eq_true_iff (hkey : key.isOnCurve = true) :
    signature.verify key message = .ok true ↔ signature.Verifies key.inGroup message := by
  cases hrange : signature.isInRange with
  | false => simp [verify_of_not_isInRange hrange, Verifies, hrange]
  | true =>
      cases hdecisive : signature.decisivePoint key.inGroup message with
      | zero =>
          rw [verify_of_decisivePoint_eq_zero hrange hkey hdecisive, Verifies, hdecisive]
          simp
      | some x y hpoint =>
          rw [verify_of_decisivePoint_eq_some hrange hkey hdecisive, Verifies, hdecisive]
          simp only [Except.ok.injEq, beq_iff_eq]
          constructor
          · intro hr
            exact ⟨hrange, x, y, hpoint, rfl, hr⟩
          · rintro ⟨-, _, _, _, hsome, hr⟩
            obtain ⟨rfl, rfl⟩ := WeierstrassCurve.Affine.Point.some.inj hsome
            exact hr

theorem verify_eq_error_iff (hkey : key.isOnCurve = true) (cause : Abort) :
    signature.verify key message = .error cause ↔
      cause = .pointAtInfinity ∧ signature.isInRange = true ∧
        signature.decisivePoint key.inGroup message = 0 := by
  cases hrange : signature.isInRange with
  | false => simp [verify_of_not_isInRange hrange]
  | true =>
      cases hdecisive : signature.decisivePoint key.inGroup message with
      | zero =>
          rw [verify_of_decisivePoint_eq_zero hrange hkey hdecisive, Except.error.injEq]
          constructor
          · intro hcause
            exact ⟨hcause.symm, rfl, rfl⟩
          · rintro ⟨hcause, -, -⟩
            exact hcause.symm
      | some x y hpoint =>
          rw [verify_of_decisivePoint_eq_some hrange hkey hdecisive]
          simp

end Signature

theorem Point.isOnCurve_of_checked? {x y : Nat} {point : Point}
    (hpoint : Point.checked? x y = some point) : point.isOnCurve = true := by
  simp only [Point.checked?] at hpoint
  split at hpoint
  · rename_i hon
    exact Option.some.inj hpoint ▸ hon
  · simp at hpoint

theorem isOnCurve_of_publicKey? {bytes : Bytes} {point : Point}
    (hkey : publicKey? bytes = some point) : point.isOnCurve = true := by
  unfold publicKey? at hkey
  split at hkey
  · exact Point.isOnCurve_of_checked? hkey
  · split at hkey
    · simp at hkey
    · split at hkey
      · split at hkey
        · exact Point.isOnCurve_of_checked? hkey
        · split at hkey
          · exact Point.isOnCurve_of_checked? (Option.filter_eq_some_iff.mp hkey).1
          · simp at hkey
      · split at hkey
        · split at hkey
          · exact Point.isOnCurve_of_checked? hkey
          · simp at hkey
        · simp at hkey

namespace Der

variable {bytes body rest : Bytes}

theorem le_toNatBE_of_head?_ne_zero {field : Bytes} (hsome : field ≠ [])
    (hhead : field.head? ≠ some 0) (hone : field.length = 1 → 0x80 ≤ Bytes.toNatBE field) :
    0x80 ≤ Bytes.toNatBE field := by
  match field with
  | [] => exact absurd rfl hsome
  | [_] => exact hone rfl
  | first :: second :: rest =>
      have hpos : 1 ≤ first.toNat := by
        refine Nat.one_le_iff_ne_zero.mpr fun hzero => hhead ?_
        obtain rfl : first = 0 := UInt8.toNat_inj.mp hzero
        rfl
      have hwidth : 256 ≤ Nat.pow 256 (second :: rest).reverse.length := by
        rw [List.length_reverse, List.length_cons]
        exact Nat.le_self_pow (Nat.succ_ne_zero _) 256
      have hproduct := Nat.mul_le_mul hwidth hpos
      rw [Bytes.toNatBE, Bytes.toNatLE_eq_valueLE, List.reverse_cons, Bytes.valueLE_append,
        Bytes.valueLE_cons, Bytes.valueLE_nil, Nat.mul_zero, Nat.add_zero]
      omega

/-- A length is read from a header, which alone decides about it. Lengths below 128 have but one
header. -/
theorem exists_header_of_length? {length : Nat} (hlength : length? bytes = some (length, rest)) :
    ∃ header, bytes = header ++ rest ∧ (length < 0x80 → header = [UInt8.ofNat length]) ∧
      ∀ more, length? (header ++ more) = some (length, more) := by
  cases bytes with
  | nil => simp [length?] at hlength
  | cons byte tail =>
      simp only [length?] at hlength
      split at hlength
      · rename_i hshort
        simp only [Option.some.injEq, Prod.mk.injEq] at hlength
        obtain ⟨rfl, rfl⟩ := hlength
        refine ⟨[byte], rfl, by simp, ?_⟩
        intro more
        simp [length?, hshort]
      · rename_i hlong
        generalize hcount : byte.toNat - 0x80 = count at hlength
        split at hlength
        · simp at hlength
        · rename_i hfits
          split at hlength
          · simp at hlength
          · rename_i hshortest
            simp only [Option.some.injEq, Prod.mk.injEq] at hlength
            obtain ⟨rfl, rfl⟩ := hlength
            simp only [Bool.or_eq_true, decide_eq_true_eq, not_or, Nat.not_lt, Bool.and_eq_true,
              not_and] at hfits hshortest
            have hwidth : (tail.take count).length = count := List.length_take_of_le hfits.2
            refine ⟨byte :: tail.take count, by simp, ?_, ?_⟩
            · intro hsmall
              have hlarge := le_toNatBE_of_head?_ne_zero
                (List.ne_nil_of_length_pos (by omega)) hshortest.1
                fun hone => hshortest.2 (hwidth ▸ hone)
              omega
            · intro more
              simp only [length?, List.cons_append, if_neg hlong, hcount, List.length_append,
                List.take_left' hwidth, List.drop_left' hwidth]
              rw [if_neg (by simp; omega), if_neg (by simpa using hshortest)]

theorem exists_header_of_element? {tag : UInt8}
    (helement : element? tag bytes = some (body, rest)) :
    ∃ header, bytes = tag :: (header ++ (body ++ rest)) ∧
      (body.length < 0x80 → header = [UInt8.ofNat body.length]) ∧
      ∀ more, element? tag (bytes ++ more) = some (body, rest ++ more) := by
  cases bytes with
  | nil => simp [element?] at helement
  | cons byte tail =>
      simp only [element?] at helement
      split at helement
      · simp at helement
      · rename_i htag
        simp only [bne_iff_ne, ne_eq, not_not] at htag
        subst htag
        split at helement
        · simp at helement
        · rename_i length content hlength
          obtain ⟨header, rfl, hshort, hheader⟩ := exists_header_of_length? hlength
          split at helement
          · simp at helement
          · rename_i hfits
            simp only [Option.some.injEq, Prod.mk.injEq] at helement
            obtain ⟨rfl, rfl⟩ := helement
            have hwidth : (content.take length).length = length :=
              List.length_take_of_le (Nat.not_lt.mp hfits)
            refine ⟨header, by rw [List.take_append_drop], by rwa [hwidth], ?_⟩
            intro more
            simp only [element?, List.cons_append, List.append_assoc, hheader, List.length_append,
              bne_self_eq_false, Bool.false_eq_true, ↓reduceIte]
            rw [if_neg (by omega), List.take_append_of_le_length (by omega),
              List.drop_append_of_le_length (by omega)]

variable {signature : Signature}

theorem exists_element?_of_signature? (hsignature : signature? bytes = some signature) :
    ∃ body, element? 0x30 bytes = some (body, []) := by
  unfold signature? at hsignature
  split at hsignature
  · rename_i body helement
    exact ⟨body, helement⟩
  · simp at hsignature

theorem signature?_append (hsignature : signature? bytes = some signature) {more : Bytes}
    (hmore : more ≠ []) : signature? (bytes ++ more) = none := by
  obtain ⟨body, helement⟩ := exists_element?_of_signature? hsignature
  obtain ⟨_, -, -, happend⟩ := exists_header_of_element? helement
  have hlonger := happend more
  rw [List.nil_append] at hlonger
  unfold signature?
  rw [hlonger]
  cases more with
  | nil => exact absurd rfl hmore
  | cons => rfl

theorem getElem?_one_of_signature? (hsignature : signature? bytes = some signature)
    (hshort : bytes.length < 0x80) : bytes[1]? = some (UInt8.ofNat (bytes.length - 2)) := by
  obtain ⟨body, helement⟩ := exists_element?_of_signature? hsignature
  obtain ⟨header, rfl, hheader, -⟩ := exists_header_of_element? helement
  simp only [List.append_nil, List.length_cons, List.length_append] at hshort
  rw [hheader (by omega)]
  simp

end Der

/-- What is documented of reading keys and signatures and of verifying: the forms of two plain
numbers and of DER, the rule by which a signature is good, and how everything else is refused. Only
a sum at infinity is no matter of the bytes. -/
structure Ecdsa.IsDocumented [Ecdsa] : Prop where
  key_on_curve {bytes : Bytes} {point : Point} :
    readKey bytes = .ok point → point.isOnCurve = true
  key_refused {bytes : Bytes} {e : KeyError} : readKey bytes = .error e → e.unexpected? = none
  raw_numbers {bytes : Bytes} {numbers : Signature} :
    readRaw bytes = .ok numbers ↔ Signature.ofBytes? bytes = some numbers
  raw_refused {bytes : Bytes} {e : SignatureError} :
    readRaw bytes = .error e → e.unexpected? = none
  /-- Nothing may stand behind a signature. -/
  der_whole {bytes : Bytes} {numbers : Signature} (byte : UInt8) : readDer bytes = .ok numbers →
    ∃ e, readDer (bytes ++ [byte]) = .error e
  /-- The second byte of a short signature tells how many bytes follow it. -/
  der_length {bytes : Bytes} {numbers : Signature} : readDer bytes = .ok numbers →
    bytes.length < 0x80 → bytes[1]? = some (UInt8.ofNat (bytes.length - 2))
  der_refused {bytes : Bytes} {e : SignatureError} :
    readDer bytes = .error e → e.unexpected? = none
  verify_unread (key : Point) {signature : Bytes} (message : Bytes) {read : SignatureReader}
      {e : SignatureError} : read signature = .error e → e.unexpected? = none →
    ∃ e', verify key signature message Digest.sha256 read = .error e' ∧ e'.unexpected? = none
  verify_good {key : Point} {signature message : Bytes} {read : SignatureReader}
      {numbers : Signature} : key.isOnCurve = true → read signature = .ok numbers →
    numbers.Verifies key.inGroup (messageNumber message) →
      verify key signature message Digest.sha256 read = .ok true
  verify_infinite {key : Point} {signature message : Bytes} {read : SignatureReader}
      {numbers : Signature} : key.isOnCurve = true → read signature = .ok numbers →
    numbers.isInRange = true → numbers.decisivePoint key.inGroup (messageNumber message) = 0 →
      verify key signature message Digest.sha256 read = .error (.other .pointAtInfinity)
  verify_bad {key : Point} {signature message : Bytes} {read : SignatureReader}
      {numbers : Signature} : key.isOnCurve = true → read signature = .ok numbers →
    ¬ numbers.Verifies key.inGroup (messageNumber message) →
    ¬ (numbers.isInRange = true ∧
      numbers.decisivePoint key.inGroup (messageNumber message) = 0) →
      verify key signature message Digest.sha256 read = .error .badSignature

def encodingReading? (encoding : Bytes × SignatureReader) : Option Signature :=
  (encoding.2 encoding.1).toOption

theorem encodingReading?_eq_some_iff (bytes : Bytes) (read : SignatureReader)
    (numbers : Signature) :
    encodingReading? (bytes, read) = some numbers ↔ read bytes = .ok numbers := by
  simp only [encodingReading?, Except.toOption]
  cases read bytes <;> simp

theorem encodingReading?_eq_none_iff (bytes : Bytes) (read : SignatureReader) :
    encodingReading? (bytes, read) = none ↔ ∃ e, read bytes = .error e := by
  simp only [encodingReading?, Except.toOption]
  cases read bytes <;> simp

section Library

variable [Ecdsa] (hdocumented : Ecdsa.IsDocumented)

/-- The signature that bytes stand for, if they stand for one. -/
def signatureReading? (bytes : Bytes) : Option Signature :=
  (signatureEncodings bytes).findSome? encodingReading?

include hdocumented

/-- Of the encodings that are tried, at most one holds a signature. -/
theorem pairwise_signatureEncodings (bytes : Bytes) :
    (signatureEncodings bytes).Pairwise fun first second =>
      encodingReading? first = none ∨ encodingReading? second = none := by
  unfold signatureEncodings
  split
  · rename_i hhead
    rw [List.pairwise_pair, encodingReading?_eq_none_iff, encodingReading?_eq_none_iff]
    cases hshorter : Ecdsa.readDer bytes.dropLast with
    | error e => exact .inr ⟨e, rfl⟩
    | ok numbers =>
        have hsome : bytes ≠ [] := by
          rintro rfl
          simp at hhead
        have hwhole := hdocumented.der_whole (bytes.getLast hsome) hshorter
        rw [List.dropLast_append_getLast hsome] at hwhole
        exact .inl hwhole
  · split
    · exact List.pairwise_singleton _ _
    · exact List.Pairwise.nil

theorem unexpected?_of_mem_signatureEncodings {signature : Bytes}
    {encoding : Bytes × SignatureReader} (hmem : encoding ∈ signatureEncodings signature)
    {e : SignatureError} (he : encoding.2 encoding.1 = .error e) : e.unexpected? = none := by
  unfold signatureEncodings at hmem
  split at hmem
  · rcases List.mem_pair.mp hmem with rfl | rfl
    · exact hdocumented.der_refused he
    · exact hdocumented.der_refused he
  · split at hmem
    · obtain rfl := List.mem_singleton.mp hmem
      exact hdocumented.raw_refused he
    · simp at hmem

section Verdict

variable {key : Point} {message : Bytes} {encodings : List (Bytes × SignatureReader)}

theorem verifyAny_cons_of_unread {encoding : Bytes × SignatureReader} {e : SignatureError}
    (he : encoding.2 encoding.1 = .error e) (hexpected : e.unexpected? = none) :
    verifyAny key message (encoding :: encodings) = verifyAny key message encodings := by
  obtain ⟨e', hverify, hexpected'⟩ := hdocumented.verify_unread key message he hexpected
  simp only [verifyAny, hverify, hexpected']

theorem verifyAny_cons_of_read (hkey : key.isOnCurve = true) {signature : Bytes}
    {read : SignatureReader} {numbers : Signature} (hread : read signature = .ok numbers) :
    verifyAny key message ((signature, read) :: encodings) =
      match numbers.verify key (messageNumber message) with
      | .error cause => .error cause
      | .ok true => .ok true
      | .ok false => verifyAny key message encodings := by
  cases hverdict : numbers.verify key (messageNumber message) with
  | error cause =>
      obtain ⟨rfl, hrange, hzero⟩ := (Signature.verify_eq_error_iff hkey cause).mp hverdict
      simp only [verifyAny, hdocumented.verify_infinite hkey hread hrange hzero]
      rfl
  | ok good =>
      cases good with
      | true =>
          have hgood := (Signature.verify_eq_true_iff hkey).mp hverdict
          simp only [verifyAny, hdocumented.verify_good hkey hread hgood]
      | false =>
          have hbad : ¬ numbers.Verifies key.inGroup (messageNumber message) := by
            rw [← Signature.verify_eq_true_iff hkey, hverdict]
            simp
          have hfinite : ¬ (numbers.isInRange = true ∧
              numbers.decisivePoint key.inGroup (messageNumber message) = 0) := by
            intro hinfinite
            have herror := (Signature.verify_eq_error_iff hkey _).mpr ⟨rfl, hinfinite⟩
            rw [hverdict] at herror
            simp at herror
          simp only [verifyAny, hdocumented.verify_bad hkey hread hbad hfinite]
          rfl

theorem verifyAny_of_forall_none
    (hexpected : ∀ encoding ∈ encodings, ∀ e, encoding.2 encoding.1 = .error e →
      e.unexpected? = none)
    (hnone : ∀ encoding ∈ encodings, encodingReading? encoding = none) :
    verifyAny key message encodings = .ok false := by
  induction encodings with
  | nil => rfl
  | cons encoding rest ih =>
      rw [List.forall_mem_cons] at hexpected hnone
      obtain ⟨e, he⟩ := (encodingReading?_eq_none_iff _ _).mp hnone.1
      rw [verifyAny_cons_of_unread hdocumented he (hexpected.1 e he), ih hexpected.2 hnone.2]

theorem verifyAny_of_pairwise (hkey : key.isOnCurve = true)
    (hexpected : ∀ encoding ∈ encodings, ∀ e, encoding.2 encoding.1 = .error e →
      e.unexpected? = none)
    (hone : encodings.Pairwise fun first second =>
      encodingReading? first = none ∨ encodingReading? second = none) {reading : Signature}
    (hfind : encodings.findSome? encodingReading? = some reading) :
    verifyAny key message encodings = reading.verify key (messageNumber message) := by
  induction encodings with
  | nil => simp at hfind
  | cons encoding rest ih =>
      obtain ⟨bytes, read⟩ := encoding
      rw [List.pairwise_cons] at hone
      rw [List.forall_mem_cons] at hexpected
      rw [List.findSome?_cons] at hfind
      cases hread : read bytes with
      | error e =>
          rw [(encodingReading?_eq_none_iff _ _).mpr ⟨e, hread⟩] at hfind
          rw [verifyAny_cons_of_unread hdocumented hread (hexpected.1 e hread)]
          exact ih hexpected.2 hone.2 hfind
      | ok numbers =>
          have hsome := (encodingReading?_eq_some_iff _ _ _).mpr hread
          rw [hsome] at hfind
          obtain rfl := Option.some.inj hfind
          have hrest : verifyAny key message rest = .ok false :=
            verifyAny_of_forall_none hdocumented hexpected.2 fun encoding hmem => by
              simpa [hsome] using hone.1 encoding hmem
          rw [verifyAny_cons_of_read hdocumented hkey hread, hrest]
          split <;> rename_i hverdict <;> rw [hverdict]

end Verdict

variable {key signature message : Bytes} {point : Point} {reading : Signature}

theorem verifySignature_of_reading (hkey : Ecdsa.readKey key = .ok point)
    (hreading : signatureReading? signature = some reading) :
    verifySignature key signature message = reading.verify point (messageNumber message) := by
  rw [verifySignature, hkey]
  exact verifyAny_of_pairwise hdocumented (hdocumented.key_on_curve hkey)
    (fun _ hmem _ he => unexpected?_of_mem_signatureEncodings hdocumented hmem he)
    (pairwise_signatureEncodings hdocumented signature) hreading

theorem verifySignature_of_key_error {e : KeyError} (hkey : Ecdsa.readKey key = .error e) :
    verifySignature key signature message = .ok false := by
  simp only [verifySignature, hkey, hdocumented.key_refused hkey]

theorem verifySignature_of_reading_none (hreading : signatureReading? signature = none) :
    verifySignature key signature message = .ok false := by
  cases hkey : Ecdsa.readKey key with
  | error e => exact verifySignature_of_key_error hdocumented hkey
  | ok point =>
      rw [verifySignature, hkey]
      exact verifyAny_of_forall_none hdocumented
        (fun _ hmem _ he => unexpected?_of_mem_signatureEncodings hdocumented hmem he)
        (List.findSome?_eq_none_iff.mp hreading)

theorem verifySignature_eq_true_iff (hkey : Ecdsa.readKey key = .ok point) :
    verifySignature key signature message = .ok true ↔
      ∃ reading, signatureReading? signature = some reading ∧
        reading.Verifies point.inGroup (messageNumber message) := by
  cases hreading : signatureReading? signature with
  | none => simp [verifySignature_of_reading_none hdocumented hreading]
  | some reading =>
      rw [verifySignature_of_reading hdocumented hkey hreading,
        Signature.verify_eq_true_iff (hdocumented.key_on_curve hkey)]
      simp

theorem signatureReading?_of_der {bytes : Bytes} (hhead : bytes.head? = some 0x30)
    (reading : Signature) :
    signatureReading? bytes = some reading ↔
      Ecdsa.readDer bytes = .ok reading ∨ Ecdsa.readDer bytes.dropLast = .ok reading := by
  have hone := pairwise_signatureEncodings hdocumented bytes
  rw [← encodingReading?_eq_some_iff, ← encodingReading?_eq_some_iff, signatureReading?]
  simp only [signatureEncodings, if_pos hhead, List.pairwise_pair] at hone ⊢
  rcases hone with hwhole | hshorter
  · simp [hwhole]
  · cases hwhole : encodingReading? (bytes, Ecdsa.readDer) <;> simp [hshorter, hwhole]

section Raw

variable {raw tail : Bytes}

omit [Ecdsa] hdocumented in
theorem head?_raw_append (hlength : raw.length = 64) (tail : Bytes) :
    (raw ++ tail).head? = raw.head? :=
  List.head?_append_of_ne_nil raw (List.ne_nil_of_length_pos (by omega))

omit [Ecdsa] hdocumented in
theorem length_raw_append (hlength : raw.length = 64) (htail : tail.length ≤ 1) :
    (raw ++ tail).length = 64 ∨ (raw ++ tail).length = 65 := by
  rw [List.length_append]
  omega

omit hdocumented in
theorem signatureReading?_of_raw (hlength : raw.length = 64) (htail : tail.length ≤ 1)
    (hhead : raw.head? ≠ some 0x30) :
    signatureReading? (raw ++ tail) = (Ecdsa.readRaw raw).toOption := by
  rw [signatureReading?, signatureEncodings, head?_raw_append hlength, if_neg hhead,
    if_pos (length_raw_append hlength htail), List.take_left' hlength, List.findSome?_singleton]
  rfl

theorem getElem?_one_of_signatureReading? (hlength : raw.length = 64) (htail : tail.length ≤ 1)
    (hhead : raw.head? = some 0x30) (hreading : signatureReading? (raw ++ tail) = some reading) :
    raw[1]? = some 0x3d ∨ raw[1]? = some 0x3e ∨ raw[1]? = some 0x3f := by
  have hwholeHead := (head?_raw_append hlength tail).trans hhead
  have hwholeLength := length_raw_append hlength htail
  have hsecond : (raw ++ tail)[1]? = raw[1]? := List.getElem?_append_left (by omega)
  rcases (signatureReading?_of_der hdocumented hwholeHead reading).mp hreading with
    hwhole | hshorter
  · have hbyte := hdocumented.der_length hwhole (by omega)
    rw [hsecond] at hbyte
    rcases hwholeLength with hwidth | hwidth <;> rw [hwidth] at hbyte
    · exact .inr (.inl hbyte)
    · exact .inr (.inr hbyte)
  · have hbyte := hdocumented.der_length hshorter (by rw [List.length_dropLast]; omega)
    rw [List.getElem?_dropLast, if_pos (by omega), hsecond, List.length_dropLast] at hbyte
    rcases hwholeLength with hwidth | hwidth <;> rw [hwidth] at hbyte
    · exact .inl hbyte
    · exact .inr (.inl hbyte)

end Raw

end Library

theorem elim_eq_ok_iff {ε α : Type} (value? : Option α) (e : ε) (value : α) :
    value?.elim (.error e) .ok = (.ok value : Except ε α) ↔ value? = some value := by
  cases value? <;> simp

theorem elim_eq_error {ε α : Type} {value? : Option α} {e e' : ε}
    (helim : value?.elim (.error e) .ok = (.error e' : Except ε α)) : e = e' := by
  cases value? with
  | none => exact Except.error.inj helim
  | some value => simp at helim

theorem secp256k1_isDocumented : @Ecdsa.IsDocumented secp256k1 where
  key_on_curve hread := isOnCurve_of_publicKey? ((elim_eq_ok_iff _ _ _).mp hread)
  key_refused hread := elim_eq_error hread ▸ rfl
  raw_numbers := elim_eq_ok_iff _ _ _
  raw_refused hread := elim_eq_error hread ▸ rfl
  der_whole byte hread := by
    have hnone := Der.signature?_append ((elim_eq_ok_iff _ _ _).mp hread)
      (List.cons_ne_nil byte [])
    exact ⟨_, congrArg (Option.elim · _ _) hnone⟩
  der_length hread hshort :=
    Der.getElem?_one_of_signature? ((elim_eq_ok_iff _ _ _).mp hread) hshort
  der_refused hread := elim_eq_error hread ▸ rfl
  verify_unread key signature message read e hread hexpected := by
    refine ⟨unreadable e, by simp only [Ecdsa.verify, hread], ?_⟩
    cases e with
    | other cause => cases hexpected
    | _ => rfl
  verify_good hkey hread hgood := by
    have hverdict := (Signature.verify_eq_true_iff hkey).mpr hgood
    simp only [Ecdsa.verify, hread]
    exact congrArg answer hverdict
  verify_infinite hkey hread hrange hzero := by
    have hverdict := (Signature.verify_eq_error_iff hkey _).mpr ⟨rfl, hrange, hzero⟩
    simp only [Ecdsa.verify, hread]
    exact congrArg answer hverdict
  verify_bad {key signature message read numbers} hkey hread hbad hfinite := by
    have hverdict : numbers.verify key (messageNumber message) = .ok false := by
      cases hverdict : numbers.verify key (messageNumber message) with
      | error cause => exact absurd ((Signature.verify_eq_error_iff hkey _).mp hverdict).2 hfinite
      | ok good =>
          cases good with
          | false => rfl
          | true => exact absurd ((Signature.verify_eq_true_iff hkey).mp hverdict) hbad
    simp only [Ecdsa.verify, hread]
    exact congrArg answer hverdict

theorem messageNumber_nil : messageNumber [] =
    0xe3b0c44298fc1c149afbf4c8996fb92427ae41e4649b934ca495991b7852b855 := by
  decide +kernel

def twiceGenerator : Point where
  x := 0xc6047f9441ed7d6d3045406e95c07cd85c778e4b8cef3ca7abac09b95c709ee5
  y := 0x1ae168fea63dc339a3c58419466ceaeef7f632653266d0e1236431a950cfe52a

theorem readKey_twiceGenerator : Ecdsa.readKey twiceGenerator.toBytes = .ok twiceGenerator := by
  decide +kernel

/-- Checking a signature comes to no verdict only where the key can be read, the bytes stand for a
signature whose numbers are in range, and the point that decides about it is at infinity. Nothing
else can go wrong with any key, signature or message. -/
theorem signature_undecided_iff_infinite [Ecdsa] (hdocumented : Ecdsa.IsDocumented)
    (key signature message : Bytes) (cause : Abort) :
    verifySignature key signature message = .error cause ↔
      cause = .pointAtInfinity ∧ ∃ point reading, Ecdsa.readKey key = .ok point ∧
        signatureReading? signature = some reading ∧ reading.isInRange = true ∧
        reading.decisivePoint point.inGroup (messageNumber message) = 0 := by
  cases hkey : Ecdsa.readKey key with
  | error e => simp [verifySignature_of_key_error hdocumented hkey]
  | ok point =>
      cases hreading : signatureReading? signature with
      | none => simp [verifySignature_of_reading_none hdocumented hreading]
      | some reading =>
          rw [verifySignature_of_reading hdocumented hkey hreading,
            Signature.verify_eq_error_iff (hdocumented.key_on_curve hkey)]
          simp

/-- A signature of the empty message for which the multiples of the generator and of the key cancel
each other. -/
def cancellingSignature : Signature where
  r := 0x0e279ddeb381f1f5b282059bb348236d49804d81255686778d9e62b8abf1c476
  s := 1

theorem signatureReading?_cancellingSignature :
    signatureReading? cancellingSignature.toBytes = some cancellingSignature := by
  decide +kernel

theorem verify_cancellingSignature :
    cancellingSignature.verify twiceGenerator (messageNumber []) = .error .pointAtInfinity := by
  rw [messageNumber_nil]
  decide +kernel

theorem cancelling_signature_undecided :
    verifySignature twiceGenerator.toBytes cancellingSignature.toBytes [] =
      .error .pointAtInfinity := by
  rw [verifySignature_of_reading secp256k1_isDocumented readKey_twiceGenerator
    signatureReading?_cancellingSignature, verify_cancellingSignature]

/-- A signature of the empty message that does not begin like DER. -/
def plainSignature : Signature where
  r := generator.x
  s := 0xd72d91408cb5936d463cb9f4367dcf3372375eb410ef44c398a83d44d60ca644

theorem signature_undecided_iff_infinite_secp256k1 :
    @Ecdsa.IsDocumented secp256k1 ∧
      (∃ point reading, Ecdsa.readKey twiceGenerator.toBytes = .ok point ∧
        signatureReading? cancellingSignature.toBytes = some reading ∧
        reading.isInRange = true ∧
        reading.decisivePoint point.inGroup (messageNumber []) = 0) ∧
      verifySignature twiceGenerator.toBytes cancellingSignature.toBytes [] =
        .error .pointAtInfinity ∧
      ∀ signature message cause, verifySignature [] signature message ≠ .error cause := by
  have hdocumented := secp256k1_isDocumented
  have hinfinite := (Signature.verify_eq_error_iff
    (hdocumented.key_on_curve readKey_twiceGenerator) _).mp verify_cancellingSignature
  have hreading : ∃ point reading, Ecdsa.readKey twiceGenerator.toBytes = .ok point ∧
      signatureReading? cancellingSignature.toBytes = some reading ∧ reading.isInRange = true ∧
      reading.decisivePoint point.inGroup (messageNumber []) = 0 :=
    ⟨_, _, readKey_twiceGenerator, signatureReading?_cancellingSignature, hinfinite.2⟩
  refine ⟨hdocumented, hreading,
    (signature_undecided_iff_infinite hdocumented _ _ _ _).mpr ⟨rfl, hreading⟩, ?_⟩
  intro signature message cause hundecided
  obtain ⟨-, _, _, hkey, -⟩ :=
    (signature_undecided_iff_infinite hdocumented _ _ _ _).mp hundecided
  cases hkey

/-- When a valid signature of two plain numbers, with one more byte behind it or none, is accepted:
if it does not begin like DER, or else if what it stands for as DER happens to be valid too. As DER
it stands for something only if its second byte is one of three, and otherwise it is refused. -/
theorem raw_signature_accepted_unless_read_as_der [Ecdsa] (hdocumented : Ecdsa.IsDocumented)
    (key raw tail message : Bytes) (point : Point) (signature : Signature)
    (hkey : Ecdsa.readKey key = .ok point) (hraw : Ecdsa.readRaw raw = .ok signature)
    (hvalid : signature.Verifies point.inGroup (messageNumber message))
    (htail : tail.length ≤ 1) :
    Ecdsa.verify point raw message Digest.sha256 Ecdsa.readRaw = .ok true ∧
    (verifySignature key (raw ++ tail) message = .ok true ↔
      raw.head? ≠ some 0x30 ∨ ∃ reading,
        (Ecdsa.readDer (raw ++ tail) = .ok reading ∨
          Ecdsa.readDer (raw ++ tail).dropLast = .ok reading) ∧
        reading.Verifies point.inGroup (messageNumber message)) ∧
    (raw.head? = some 0x30 →
      raw[1]? ≠ some 0x3d → raw[1]? ≠ some 0x3e → raw[1]? ≠ some 0x3f →
        verifySignature key (raw ++ tail) message = .ok false) := by
  have hlength : raw.length = 64 := by
    have hsome := hdocumented.raw_numbers.mp hraw
    by_contra hother
    simp [Signature.ofBytes?, hother] at hsome
  refine ⟨hdocumented.verify_good (hdocumented.key_on_curve hkey) hraw hvalid, ?_, ?_⟩
  · rw [verifySignature_eq_true_iff hdocumented hkey]
    by_cases hhead : raw.head? = some 0x30
    · have hwholeHead := (head?_raw_append hlength tail).trans hhead
      simp only [signatureReading?_of_der hdocumented hwholeHead, hhead, ne_eq, not_true_eq_false,
        false_or]
    · rw [signatureReading?_of_raw hlength htail hhead, hraw]
      refine iff_of_true ⟨signature, rfl, hvalid⟩ (.inl hhead)
  · intro hhead h3d h3e h3f
    cases hreading : signatureReading? (raw ++ tail) with
    | none => exact verifySignature_of_reading_none hdocumented hreading
    | some reading =>
        rcases getElem?_one_of_signatureReading? hdocumented hlength htail hhead hreading with
          h | h | h
        · exact absurd h h3d
        · exact absurd h h3e
        · exact absurd h h3f

theorem verifies_of_verify {signature : Signature} {number : Nat}
    (hnumber : messageNumber [] = number)
    (hverify : signature.verify twiceGenerator number = .ok true) :
    signature.Verifies twiceGenerator.inGroup (messageNumber []) := by
  rw [← hnumber] at hverify
  exact (Signature.verify_eq_true_iff
    (secp256k1_isDocumented.key_on_curve readKey_twiceGenerator)).mp hverify

theorem raw_signature_accepted_unless_read_as_der_plain :
    @Ecdsa.IsDocumented secp256k1 ∧
      Ecdsa.readKey twiceGenerator.toBytes = .ok twiceGenerator ∧
      Ecdsa.readRaw plainSignature.toBytes = .ok plainSignature ∧
      plainSignature.Verifies twiceGenerator.inGroup (messageNumber []) ∧
      verifySignature twiceGenerator.toBytes (plainSignature.toBytes ++ [1]) [] = .ok true := by
  have hraw : Ecdsa.readRaw plainSignature.toBytes = .ok plainSignature := by decide +kernel
  have hvalid : plainSignature.Verifies twiceGenerator.inGroup (messageNumber []) :=
    verifies_of_verify messageNumber_nil (by decide +kernel)
  have haccepted := (raw_signature_accepted_unless_read_as_der secp256k1_isDocumented _ _ [1] _ _ _
    readKey_twiceGenerator hraw hvalid (by decide)).2.1.mpr (.inl (by decide +kernel))
  exact ⟨secp256k1_isDocumented, readKey_twiceGenerator, hraw, hvalid, haccepted⟩

/-- A signature of the empty message whose first number begins with the byte that DER begins
with. -/
def derLikeSignature : Signature where
  r := 0x3049f7ffc71d744bd9bed6f42dc6a28974e3a1b9d30671f800e5d46389103c7e
  s := 0x8d37e3a64badb742f1b5e5fcb71b940ee9da6bdf226289c3f31a8b78d100444c

theorem der_like_signature_refused :
    Ecdsa.readKey twiceGenerator.toBytes = .ok twiceGenerator ∧
      Ecdsa.readRaw derLikeSignature.toBytes = .ok derLikeSignature ∧
      derLikeSignature.Verifies twiceGenerator.inGroup (messageNumber []) ∧
      Ecdsa.verify twiceGenerator derLikeSignature.toBytes [] Digest.sha256 Ecdsa.readRaw =
        .ok true ∧
      verifySignature twiceGenerator.toBytes derLikeSignature.toBytes [] = .ok false ∧
      verifySignature twiceGenerator.toBytes (derLikeSignature.toBytes ++ [1]) [] = .ok false := by
  have hdocumented := secp256k1_isDocumented
  have hraw : Ecdsa.readRaw derLikeSignature.toBytes = .ok derLikeSignature := by decide +kernel
  have hvalid : derLikeSignature.Verifies twiceGenerator.inGroup (messageNumber []) :=
    verifies_of_verify messageNumber_nil (by decide +kernel)
  refine ⟨readKey_twiceGenerator, hraw, hvalid,
    hdocumented.verify_good (hdocumented.key_on_curve readKey_twiceGenerator) hraw hvalid, ?_, ?_⟩
  · exact verifySignature_of_reading_none hdocumented (by decide +kernel)
  · exact verifySignature_of_reading_none hdocumented (by decide +kernel)

end Lockstep.Curve
