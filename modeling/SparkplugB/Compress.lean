/-
# The compression envelope

`src/compress.rs`.  A compressed payload is a payload of its own: the sentinel `uuid`, the `seq` of
the inner payload, and the compressed bytes of the inner payload as its `body`.  A String metric
named `algorithm` selects GZIP; its absence implies DEFLATE.

`flate2` is a parameter (`Flate`), of which only the two inversions are assumed (`Flate.Lawful`).

The envelope goes over the wire like every payload, so its `algorithm` metric loses its datatype
where datatypes are stripped, and the receiver has to recover it from its registry:

* `decompress_envelope`:  the inner payload comes out of the envelope;
* `throughEnvelope_eq`:   it comes out of the envelope that was encoded and decoded, if the
  envelope keeps its datatypes, has no `algorithm` metric, or the registry knows `algorithm` as a
  String.
-/
import SparkplugB.Codec.Survival

namespace SparkplugB

open Codec

/-- The sentinel `uuid` of a compressed payload. -/
def COMPRESSED_PAYLOAD_UUID : String := "SPBV1.0_COMPRESSED"

/-- The compression algorithm used for a payload envelope. -/
inductive Compression where
  | deflate
  | gzip
  deriving DecidableEq, Repr

/-- The four functions of `compress.rs` that call `flate2`. -/
structure Flate where
  deflate : Bytes → Result Bytes
  inflate : Bytes → Result Bytes
  gzip : Bytes → Result Bytes
  gunzip : Bytes → Result Bytes

/-- What is compressed comes back. -/
structure Flate.Lawful (flate : Flate) : Prop where
  inflate_deflate : ∀ x, (flate.deflate x).bind flate.inflate = .ok x
  gunzip_gzip : ∀ x, (flate.gzip x).bind flate.gunzip = .ok x

namespace Compress

/-! ## 1. The envelope -/

/-- `match algo { Deflate => deflate(&raw)?, Gzip => gzip(&raw)? }`. -/
def pack (flate : Flate) : Compression → Bytes → Result Bytes
  | .deflate => flate.deflate
  | .gzip => flate.gzip

/-- `match algo { Deflate => inflate(body)?, Gzip => gunzip(body)? }`. -/
def unpack (flate : Flate) : Compression → Bytes → Result Bytes
  | .deflate => flate.inflate
  | .gzip => flate.gunzip

/-- The metric that selects GZIP. -/
def algorithmMetric : Metric := Metric.new "algorithm" (.string "GZIP")

/-- The payload that `compress` builds around a body. -/
def envelope (payload : Payload) (algo : Compression) (body : Bytes) : Payload :=
  { uuid := some COMPRESSED_PAYLOAD_UUID
    seq := payload.seq
    body := some body
    metrics := if algo = .gzip then [algorithmMetric] else [] }

/-- `a.eq_ignore_ascii_case(b)`. -/
def eqIgnoreAsciiCase (a b : String) : Bool :=
  a.toList.map Char.toLower == b.toList.map Char.toLower

/-- The test of `decompress` on the metrics of an envelope. -/
def selectsGzip (m : Metric) : Bool :=
  m.name == some "algorithm" &&
    match m.value with
    | .string s => eqIgnoreAsciiCase s "GZIP"
    | _ => false

end Compress

open Compress

/-- Encode `payload` with `opts`, compress the bytes, and wrap them in an envelope. -/
def compress (flate : Flate) (payload : Payload) (opts : EncodeOptions) (algo : Compression) :
    Result Payload := do
  let raw := encode payload opts
  let body ← pack flate algo raw
  pure (envelope payload algo body)

/-- Reverse `compress`: decompress an envelope's body and decode the inner payload. -/
def decompress (flate : Flate) (envelope : Payload) (types : Option AliasRegistry) :
    Result Payload :=
  if envelope.uuid ≠ some COMPRESSED_PAYLOAD_UUID then
    .error (.valueTypeMismatch "payload is not a SPBV1.0_COMPRESSED envelope")
  else
    match envelope.body with
    | none => .error (.valueTypeMismatch "compressed envelope has no body")
    | some body => do
      let algo := if envelope.metrics.any selectsGzip then Compression.gzip else .deflate
      let raw ← unpack flate algo body
      decode raw types

namespace Compress

theorem Lawful.unpack_pack {flate : Flate} (h : flate.Lawful) (algo : Compression) (x : Bytes) :
    (pack flate algo x).bind (unpack flate algo) = .ok x := by
  cases algo with
  | deflate => exact h.inflate_deflate x
  | gzip => exact h.gunzip_gzip x

/-- The envelope says which algorithm it was made with. -/
theorem algorithm_envelope (payload : Payload) (algo : Compression) (body : Bytes) :
    (if (envelope payload algo body).metrics.any selectsGzip then Compression.gzip else .deflate) =
      algo := by
  cases algo with
  | deflate => rfl
  | gzip => rfl

/-- **The inner payload comes out of the envelope**, if its bytes are decoded to it. -/
theorem decompress_envelope {flate : Flate} {payload : Payload} {algo : Compression}
    {raw body : Bytes} {types : Option AliasRegistry} (hunpack : unpack flate algo body = .ok raw)
    (hdecode : decode raw types = .ok payload) :
    decompress flate (envelope payload algo body) types = .ok payload := by
  have huuid : ¬ (envelope payload algo body).uuid ≠ some COMPRESSED_PAYLOAD_UUID :=
    not_not_intro rfl
  have hbody : (envelope payload algo body).body = some body := rfl
  rw [decompress, if_neg huuid, hbody]
  simp only [algorithm_envelope, hunpack]
  exact hdecode

/-! ## 2. The envelope over the wire -/

/-- `e = compress(p, o, algo)?`, `e' = decode(&encode(&e, o), Some(&reg))?`,
`decompress(&e', Some(&reg))`. -/
def throughEnvelope (flate : Flate) (p : Payload) (o : EncodeOptions) (algo : Compression)
    (reg : AliasRegistry) : Result Payload := do
  let e ← compress flate p o algo
  let e' ← decode (encode e o) (some reg)
  decompress flate e' (some reg)

/-- A well-formed payload within the nesting limit reads back, if the registry recovers the
datatypes that are stripped. -/
theorem decode_encode {p : Payload} {o : EncodeOptions} {reg : AliasRegistry}
    (hwf : p.WellFormed) (hdepth : p.depth ≤ MAX_DEPTH)
    (hreg : o.stripDatatypes = true → ∀ m ∈ p.metrics, Metric.All (Recovers reg) m)
    (hlen : (encode p o).length < 2 ^ 63) : decode (encode p o) (some reg) = .ok p := by
  obtain ⟨strip⟩ := o
  cases strip with
  | false => exact decode_birth hwf hdepth hlen (some reg)
  | true => exact (decode_data_iff hlen).mpr ⟨hwf, hdepth, hreg rfl⟩

theorem envelope_wellFormed (payload : Payload) (algo : Compression) (body : Bytes) :
    (envelope payload algo body).WellFormed := by
  cases algo with
  | deflate => exact fun m hm => absurd hm List.not_mem_nil
  | gzip =>
    intro m hm
    obtain rfl := List.mem_singleton.mp hm
    decide

theorem depth_envelope (payload : Payload) (algo : Compression) (body : Bytes) :
    (envelope payload algo body).depth ≤ MAX_DEPTH := by
  cases algo with
  | deflate => exact Nat.zero_le _
  | gzip =>
    have hdepth : Payload.depth { metrics := [algorithmMetric] } ≤ MAX_DEPTH := by decide
    exact hdepth

/-- The one metric an envelope can have is recovered by its name. -/
theorem envelope_recovers {reg : AliasRegistry} (payload : Payload) (algo : Compression)
    (body : Bytes) (h : algo = .gzip → reg.datatypeForName "algorithm" = some .string) :
    ∀ m ∈ (envelope payload algo body).metrics, Metric.All (Recovers reg) m := by
  cases algo with
  | deflate => exact fun m hm => absurd hm List.not_mem_nil
  | gzip =>
    intro m hm
    obtain rfl := List.mem_singleton.mp hm
    rw [Metric.all_iff]
    exact ⟨h rfl, trivial⟩

/-- **The envelope survives the wire**, if its own metric does: it keeps its datatypes, or it has
no `algorithm` metric, or the registry knows `algorithm` as a String. -/
theorem throughEnvelope_eq (flate : Flate) (hflate : flate.Lawful) (p : Payload)
    (hwf : p.WellFormed) (hdepth : p.depth ≤ 32) (algo : Compression) (o : EncodeOptions)
    (reg : AliasRegistry) (hreg : ∀ m ∈ p.metrics, Metric.All (Recovers reg) m)
    (halgorithm : o.stripDatatypes = true → algo = .gzip →
      reg.datatypeForName "algorithm" = some .string)
    (hsize : (encode p o).length < 2 ^ 63)
    (hsize' : ∀ e, compress flate p o algo = .ok e → (encode e o).length < 2 ^ 63) :
    throughEnvelope flate p o algo reg = .ok p := by
  have hinner : decode (encode p o) (some reg) = .ok p :=
    decode_encode hwf hdepth (fun _ => hreg) hsize
  obtain ⟨body, hpack, hunpack⟩ := ok_of_bind (Lawful.unpack_pack hflate algo (encode p o))
  have hcompress : compress flate p o algo = .ok (envelope p algo body) := bind_of_ok hpack rfl
  have houter : decode (encode (envelope p algo body) o) (some reg) =
      .ok (envelope p algo body) :=
    decode_encode (envelope_wellFormed p algo body) (depth_envelope p algo body)
      (fun hstrip => envelope_recovers p algo body (halgorithm hstrip)) (hsize' _ hcompress)
  exact bind_of_ok hcompress (bind_of_ok houter (decompress_envelope hunpack hinner))

/-! ## 3. A valve position -/

/-- A compressor that makes `out` of `raw` and puts a mark before everything else. -/
def marking (raw out x : Bytes) : Result Bytes := .ok (if x = raw then out else 0 :: x)

/-- Its inverse. -/
def unmarking (raw out y : Bytes) : Result Bytes :=
  if y = out then .ok raw
  else
    match y with
    | 0 :: x => .ok x
    | _ => .error (.io "corrupt deflate stream")

theorem unmarking_marking {raw out : Bytes} (hout : out.head? ≠ some 0) (x : Bytes) :
    (marking raw out x).bind (unmarking raw out) = .ok x := by
  by_cases hx : x = raw
  · rw [marking, if_pos hx, hx]
    exact if_pos rfl
  · have hmark : 0 :: x ≠ out := by
      rintro rfl
      exact hout rfl
    rw [marking, if_neg hx]
    exact if_neg hmark

def valve : Payload := { seq := some 7, metrics := [Metric.new "v" (.boolean true)] }

def valveTypes : AliasRegistry := AliasRegistry.new.bind "v" none .boolean

/-- What `flate2` makes of the stripped valve position. -/
def valveDeflated : Bytes :=
  [0x13, 0x62, 0xe5, 0x62, 0x2c, 0x2b, 0x60, 0x94, 0x60, 0x07, 0x00]

def valveGzipped : Bytes :=
  [0x1f, 0x8b, 0x08, 0x00, 0x00, 0x00, 0x00, 0x00, 0x00, 0xff, 0x13, 0x62, 0xe5, 0x62, 0x2c, 0x2b,
    0x60, 0x94, 0x60, 0x07, 0x00, 0xe8, 0x2e, 0xe3, 0x43, 0x09, 0x00, 0x00, 0x00]

def valveFlate : Flate where
  deflate := marking (encode valve .data) valveDeflated
  inflate := unmarking (encode valve .data) valveDeflated
  gzip := marking (encode valve .data) valveGzipped
  gunzip := unmarking (encode valve .data) valveGzipped

theorem valveFlate_lawful : valveFlate.Lawful where
  inflate_deflate := unmarking_marking (by decide)
  gunzip_gzip := unmarking_marking (by decide)

/-- A registry that knows `algorithm` too. -/
def valveAlgorithmTypes : AliasRegistry := valveTypes.bind "algorithm" none .string

theorem throughEnvelope_valve :
    throughEnvelope valveFlate valve .data .gzip valveAlgorithmTypes = .ok valve :=
  throughEnvelope_eq valveFlate valveFlate_lawful valve (by decide) (by decide) .gzip .data
    valveAlgorithmTypes (by decide +kernel) (fun _ _ => by decide +kernel) (by decide +kernel)
    (fun e he => by
      obtain rfl := Except.ok.inj he
      decide +kernel)

/-- A registry that recovers the datatypes of the payload and no others: the GZIP envelope of
stripped data cannot be decoded. -/
theorem throughEnvelope_undeclared :
    valveFlate.Lawful ∧ valve.WellFormed ∧ valve.depth ≤ 32 ∧
      (∀ m ∈ valve.metrics, Metric.All (Recovers valveTypes) m) ∧
      throughEnvelope valveFlate valve .data .gzip valveTypes ≠ .ok valve := by
  refine ⟨valveFlate_lawful, by decide, by decide, by decide +kernel, fun h => ?_⟩
  have hfails : (throughEnvelope valveFlate valve .data .gzip valveTypes).isOk = false := by
    decide +kernel
  rw [h] at hfails
  exact absurd hfails (by decide)

end Compress

end SparkplugB
