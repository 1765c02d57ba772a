import PodNet.Tls.Der

/-!
# Certificates and keys

What makes bytes a certificate or a private key, as far as their form decides it: no signature is
checked, and no key is tried. A certificate states its version, its serial number, the algorithm of
its signature, who issued it and to whom, how long it holds, and the key; extensions may follow. It
must not have an extension that is critical and not known. Trusted certificates may also be of the
first version, which says the same without a version and extensions.
-/

namespace PodNet.Tls

open Der (Tag)

namespace Certificate

/-- The identifiers of the extensions that are known: the use of the key, names, constraints, where
revocations are listed, and the purposes of the key. -/
def knownExtensions : List Bytes :=
  [15, 17, 19, 30, 31, 37].map fun n => [0x55, 0x1d, n]

/-- An extension: its identifier, whether it is critical, and its value. -/
def extension? (content : Bytes) : Option (Bytes × Bool) := do
  let (id, rest) ← Der.value? .objectId content
  let (critical, rest) ← match Der.value? .bool rest with
    | some ([0xff], rest) => some (true, rest)
    | some ([0], rest) => some (false, rest)
    | some _ => none
    | none => some (false, rest)
  match ← Der.value? .octets rest with
  | (_, []) => return (id, critical)
  | _ => none

/-- Are the extensions well formed, the critical ones known, and the known ones given once? -/
def areExtensions (content : Bytes) : Bool :=
  match (Der.repeated? .sequence content.length content).bind (List.mapM extension?) with
  | none => false
  | some l =>
    let known := l.filter fun e => knownExtensions.contains e.1
    l.all (fun e => !e.2 || knownExtensions.contains e.1) &&
      knownExtensions.all fun id => known.countP (fun e => e.1 == id) ≤ 1

/-- The optional extensions at the end of what is certified. -/
def endsWell (b : Bytes) : Bool :=
  b.isEmpty ||
    match Der.nested? (.marked 3) (Der.value? .sequence) b with
    | some (content, []) => areExtensions content
    | _ => false

/-- The version of what is certified, and what follows it. -/
def version? (b : Bytes) : Option (Bytes × Bytes) :=
  Der.nested? (.marked 0) (Der.value? .integer) b

/-- The bytes as what is certified, the algorithm of the signature, and the signature. -/
def parts? (b : Bytes) : Option (Bytes × Bytes × Bytes) :=
  match Der.nested? .sequence (Der.values? [.sequence, .sequence, .bits]) b with
  | some ([certified, algorithm, signature], []) => some (certified, algorithm, signature)
  | _ => none

/-- The greatest length of a certificate that is read, in bytes. -/
def maxLength : Nat := 65535

/-- Are the bytes a certificate of the third version? -/
def isCurrent (b : Bytes) : Bool :=
  match parts? b with
  | none => false
  | some (certified, algorithm, signature) =>
    match version? certified with
    | some ([2], rest) =>
      match Der.values?
          [.integer, .sequence, .sequence, .sequence, .sequence, .sequence] rest with
      | some ([_, stated, _, _, _, _], rest) =>
        b.length ≤ maxLength && stated == algorithm && signature.head? == some 0 && endsWell rest
      | _ => false
    | _ => false

/-- Are the bytes a certificate of the first version? -/
def isFirst (b : Bytes) : Bool :=
  match parts? b with
  | none => false
  | some (certified, _, signature) =>
    (version? certified).isNone && signature.head? == some 0 &&
      match Der.values?
          [.integer, .sequence, .sequence, .sequence, .sequence, .sequence] certified with
      | some (_, []) => true
      | _ => false

/-- Are the bytes a certificate that can be trusted from the start? -/
def isAnchor (b : Bytes) : Bool :=
  isCurrent b || isFirst b

end Certificate

namespace PrivateKey

/-- Are the bytes a sequence that begins with an integer of the value and values with the tags? -/
def begins (version : UInt8) (tags : List Tag) (b : Bytes) : Bool :=
  match Der.value? .sequence b with
  | some (content, []) =>
    match Der.value? .integer content with
    | some ([v], rest) => v == version && (Der.values? tags rest).isSome
    | _ => false
  | _ => false

/-- Are the bytes a private key with a statement of its kind? -/
def isStated (b : Bytes) : Bool :=
  begins 0 [.sequence, .octets] b || begins 1 [.sequence, .octets] b

/-- Are the bytes a private key made of eight numbers? -/
def isNumbers (b : Bytes) : Bool :=
  begins 0 (List.replicate 8 .integer) b

/-- Are the bytes a private key on a curve? -/
def isCurve (b : Bytes) : Bool :=
  begins 1 [.octets] b

end PrivateKey

end PodNet.Tls
