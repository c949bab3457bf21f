/-
**Certificates.**

A certificate is an opaque public text, base64 over a small record, known by the SHA-256 digest of
what the base64 stands for: its thumbprint.  A bundle is a certificate with its private key, wrapped
in the same way.

Main definitions:

* `CertificateInfo` — what is kept of a certificate on a grant;
* `Certificate`, `CertificateBundle` — a certificate, alone and with its key;
* `thumbprint`, `sameThumbprint` — thumbprints and their comparison;
* `Certificate.parse`, `CertificateBundle.parse` — reading;
* `GeneratedCertificate.generate` — a new certificate from fresh key material.
-/

import HubReplication.Certificate.Base64
import HubReplication.Certificate.Sha256
import HubReplication.Error
import HubReplication.Instant.Text
import HubReplication.Json.Decode
import HubReplication.Json.Parser
import HubReplication.Json.Printer
import HubReplication.Text.Ascii

set_option relaxedAutoImplicit false
set_option autoImplicit false

namespace HubReplication

/-- What is kept of a certificate on a grant. -/
structure CertificateInfo where
  subject : String
  thumbprint : String
  notBefore : Instant
  notAfter : Instant
  /-- The public key, in base64. -/
  publicKey : String
deriving DecidableEq

/-- A public certificate. -/
structure Certificate where
  info : CertificateInfo
  /-- The text it is presented as. -/
  encoded : String
deriving DecidableEq

/-- A certificate with its private key. -/
structure CertificateBundle where
  certificate : Certificate
  privateKey : List UInt8
deriving DecidableEq

/-- The thumbprint of what a certificate stands for. -/
def thumbprint (bytes : List UInt8) : String := Sha256.hex (Sha256.digest bytes)

/-- Thumbprints are compared without regard to the case of their digits. -/
def sameThumbprint (a b : String) : Bool := Text.asciiUpper a == Text.asciiUpper b

namespace CertificateInfo

/-- Whether an instant is within the validity of a certificate. -/
def isValidAt (info : CertificateInfo) (now : Instant) : Bool :=
  decide (info.notBefore ≤ now) && decide (now ≤ info.notAfter)

/-- The description as a value. -/
def toJson (info : CertificateInfo) : Json :=
  .object [
    ("Subject", .string info.subject),
    ("Thumbprint", .string info.thumbprint),
    ("NotBefore", .string info.notBefore.text),
    ("NotAfter", .string info.notAfter.text),
    ("PublicKey", .string info.publicKey)]

/-- The instant of a value. -/
def instantOfJson? (j : Json) : Option Instant := j.asText.bind Instant.parse?

/-- The description of a value. -/
def ofJson? (j : Json) : Option CertificateInfo := do
  match ← j.record? ["Subject", "Thumbprint", "NotBefore", "NotAfter", "PublicKey"] with
  | [subject, thumbprint, notBefore, notAfter, publicKey] =>
    return {
      subject := ← Json.required Json.asText subject
      thumbprint := ← Json.required Json.asText thumbprint
      notBefore := ← Json.required instantOfJson? notBefore
      notAfter := ← Json.required instantOfJson? notAfter
      publicKey := ← Json.required Json.asText publicKey }
  | _ => none

instance : Json.Writable CertificateInfo := ⟨toJson⟩

end CertificateInfo

/-! ### Serial numbers -/

/-- Whether a character is a hexadecimal digit. -/
def isHexDigit (c : Char) : Bool := (Json.hexValue? c).isSome

/-- Whether a text is five groups of hexadecimal digits between hyphens. -/
def isHyphenated (cs : List Char) : Bool :=
  cs.length = 36 && cs.zipIdx.all fun (c, i) =>
    if i = 8 || i = 13 || i = 18 || i = 23 then c == '-' else isHexDigit c

/-- Whether a text is a universally unique identifier: 32 hexadecimal digits, or the hyphenated form
alone, in braces, or after `urn:uuid:` in letters of either case. -/
def isUuid (s : String) : Bool :=
  let cs := s.toList
  match s.utf8ByteSize with
  | 32 => cs.all isHexDigit
  | 36 => isHyphenated cs
  | 38 => cs.head? == some '\x7b' && cs.getLast? == some '\x7d' && isHyphenated (cs.drop 1).dropLast
  | 45 => Text.startsWithName "urn:uuid:" s && isHyphenated (cs.drop 9)
  | _ => false

/-! ### Reading -/

/-- The record inside a certificate. -/
structure CertificateBody where
  subject : String
  serial : String
  notBefore : Instant
  notAfter : Instant
  publicKey : String

namespace CertificateBody

/-- The record of a value. -/
def ofJson? (j : Json) : Option CertificateBody := do
  match ← j.record? ["subject", "serial", "not_before", "not_after", "public_key"] with
  | [subject, serial, notBefore, notAfter, publicKey] =>
    return {
      subject := ← Json.required Json.asText subject
      serial := ← Json.required (fun s => s.asText.filter isUuid) serial
      notBefore := ← Json.required CertificateInfo.instantOfJson? notBefore
      notAfter := ← Json.required CertificateInfo.instantOfJson? notAfter
      publicKey := ← Json.required Json.asText publicKey }
  | _ => none

/-- The record as a value. -/
def toJson (body : CertificateBody) : Json :=
  .object [
    ("subject", .string body.subject),
    ("serial", .string body.serial),
    ("not_before", .string body.notBefore.text),
    ("not_after", .string body.notAfter.text),
    ("public_key", .string body.publicKey)]

end CertificateBody

/-- The public certificate of a text. -/
def Certificate.parse (encoded : String) : Outcome Certificate :=
  match Base64.decode? (Text.trim encoded) with
  | none => .error (.invalidConfiguration "certificate is not valid base64: not the alphabet")
  | some bytes =>
    match (Json.ofBytes? bytes).bind CertificateBody.ofJson? with
    | none => .error (.invalidConfiguration "certificate could not be parsed: not a certificate")
    | some body =>
      if body.notAfter ≤ body.notBefore then
        .error (.invalidConfiguration "certificate validity window is empty")
      else
        .ok {
          info := {
            subject := body.subject
            thumbprint := thumbprint bytes
            notBefore := body.notBefore
            notAfter := body.notAfter
            publicKey := body.publicKey }
          encoded := Text.trim encoded }

/-- The certificate text and the key text of a bundle. -/
def bundleParts? (j : Json) : Option (String × String) := do
  match ← j.record? ["certificate", "private_key"] with
  | [certificate, key] =>
    return (← Json.required Json.asText certificate, ← Json.required Json.asText key)
  | _ => none

/-- The bundle of a text. -/
def CertificateBundle.parse (encoded : String) : Outcome CertificateBundle :=
  match Base64.decode? (Text.trim encoded) with
  | none => .error (.invalidConfiguration "certificate is not valid base64: not the alphabet")
  | some bytes =>
    match (Json.ofBytes? bytes).bind bundleParts? with
    | none => .error (.invalidConfiguration "certificate does not contain a private key")
    | some (certificate, key) =>
      match Base64.decode? key with
      | none => .error (.invalidConfiguration "private key is not valid base64: not the alphabet")
      | some privateKey =>
        if privateKey.isEmpty then
          .error (.invalidConfiguration "certificate does not contain a private key")
        else
          match Certificate.parse certificate with
          | .error e => .error e
          | .ok certificate => .ok { certificate, privateKey }

/-! ### Generating -/

/-- A generated certificate: the public part for the hub, the bundle for the sink. -/
structure GeneratedCertificate where
  publicKey : String
  certificate : String
  thumbprint : String
deriving DecidableEq

namespace GeneratedCertificate

/-- Random material for one certificate. -/
structure Entropy where
  privateKey : List UInt8
  serial : String

/-- How many random bytes a private key has. -/
def keyLength : Nat := 32

/-- How many random bytes a certificate takes: those of the key, and 16 for the serial number. -/
def entropyLength : Nat := keyLength + 16

/-- The text of the 16 bytes of a random identifier; two of them tell that it is random. -/
def serialText (bytes : List UInt8) : String :=
  let marked := bytes.mapIdx fun i b =>
    if i = 6 then b &&& 0x0F ||| 0x40 else if i = 8 then b &&& 0x3F ||| 0x80 else b
  let digits := (Text.asciiLower (Sha256.hex marked)).toList
  let group (start length : Nat) : List Char := (digits.drop start).take length
  String.ofList ("-".toList.intercalate
    [group 0 8, group 8 4, group 12 4, group 16 4, group 20 12])

/-- Random material of random bytes. -/
def Entropy.ofBytes (bytes : List UInt8) : Entropy :=
  ⟨bytes.take keyLength, serialText ((bytes.drop keyLength).take 16)⟩

/-- What may stop a certificate from being made. -/
inductive Fault where
  | refused (error : ReplicationError)
  /-- The end of the validity is beyond the calendar. -/
  | beyondCalendar

/-- A certificate begins to be valid five minutes before it is made. -/
def head : Span := ⟨300 * 1000000000⟩

/-- The bytes of a text. -/
def utf8 (s : String) : List UInt8 := s.toUTF8.toList

/-- A certificate valid for a span from now on. -/
def generate (subject : String) (validity : Span) (now : Instant) (entropy : Entropy) :
    Except Fault GeneratedCertificate :=
  if Text.isBlankText subject then
    .error (.refused (.invalidConfiguration "certificate subject must not be empty"))
  else
    match now.sub? head, now.add? validity with
    | some notBefore, some notAfter =>
      let body : CertificateBody :=
        { subject, serial := entropy.serial, notBefore, notAfter
          publicKey := Base64.encode (Sha256.digest entropy.privateKey) }
      let bytes := utf8 body.toJson.compact
      let encoded := Base64.encode bytes
      let bundle := Json.object [
        ("certificate", .string encoded),
        ("private_key", .string (Base64.encode entropy.privateKey))]
      .ok {
        publicKey := encoded
        certificate := Base64.encode (utf8 bundle.compact)
        thumbprint := HubReplication.thumbprint bytes }
    | _, _ => .error .beyondCalendar

/-- A generated certificate as a value. -/
def toJson (g : GeneratedCertificate) : Json :=
  .object [
    ("PublicKey", .string g.publicKey),
    ("Certificate", .string g.certificate),
    ("Thumbprint", .string g.thumbprint)]

/-- Whether the bundle and the public part are one certificate, which has the thumbprint. -/
def isConsistent (g : GeneratedCertificate) : Bool :=
  match CertificateBundle.parse g.certificate, Certificate.parse g.publicKey with
  | .ok bundle, .ok certificate =>
    bundle.certificate.info = certificate.info && certificate.info.thumbprint = g.thumbprint
  | _, _ => false

end GeneratedCertificate

end HubReplication
