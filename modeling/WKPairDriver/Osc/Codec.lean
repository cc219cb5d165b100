import Mathlib
import WKPairDriver.Osc.Reader
import WKPairDriver.Osc.Wire

/-!
# OSC messages, written and read back

A message of an address, a type tag and any arguments, written with `OscPacket`, parsed with
`OscParseMessage` and read argument by argument with `OscReader`.

* `OscArg.write_bytes` — an argument appends its padded bytes.
* `readArgs_of_eq` — a reader that has these bytes ahead of it reads the arguments back.
* `oscCodec_roundTrip` — a message that fits is read back, its arguments 4-byte aligned, unless it
  has a string of 4 GB or a blob of 2 GB.
* `hugeBlob_hugeString` — a blob of 2 GB and a string of 4 GB are not.
-/

set_option autoImplicit false

namespace WKPairDriver.Osc

open Lib.Bytes Lib.Slice

inductive OscType where
  | int32
  | float
  | str
  | blob

/-- An argument; a float is its bits. -/
inductive OscArg where
  | int32 (v : BitVec 32)
  | float (bits : BitVec 32)
  | str (s : List UInt8)
  | blob (data : List UInt8)
deriving DecidableEq

namespace OscArg

def type : OscArg → OscType
  | .int32 _ => .int32
  | .float _ => .float
  | .str _ => .str
  | .blob _ => .blob

variable {N : ℕ}

def write (p : OscPacket N) : OscArg → OscPacket N
  | .int32 v => p.writeInt32 v
  | .float bits => p.writeFloat bits
  | .str s => p.writeStr s
  | .blob data => p.writeBlob data

/-- What the writer can be given: a C string, and a length of 32 bits. -/
def Writable : OscArg → Prop
  | .str s => 0 ∉ s
  | .blob data => data.length < 2 ^ 32
  | _ => True

/-- Strings whose padded length fits 32 bits, and blobs whose length fits an `int32_t`. -/
def Fits : OscArg → Prop
  | .str s => s.length + 4 < 2 ^ 32
  | .blob data => data.length < 2 ^ 31
  | _ => True

/-- The bytes of an argument. -/
def bytes : OscArg → List UInt8
  | .int32 v => be32 v.toNat
  | .float bits => be32 bits.toNat
  | .str s => oscString s
  | .blob data => be32 data.length ++ (data ++ List.replicate (oscPad4 data.length - data.length) 0)

end OscArg

/-- A message written from its start. -/
def writeMessage (N : ℕ) (address typetag : List UInt8) (args : List OscArg) : OscPacket N :=
  args.foldl OscArg.write (OscPacket.begin N address typetag)

/-- Read an argument of a type. -/
def OscType.read (r : OscReader) : OscType → Except Fault (OscReader × Option OscArg)
  | .int32 =>
    match r.readInt32 with
    | .error e => .error e
    | .ok (r, v) => .ok (r, some (.int32 v))
  | .float =>
    match r.readFloat with
    | .error e => .error e
    | .ok (r, bits) => .ok (r, some (.float bits))
  | .str =>
    match r.readStr with
    | .error e => .error e
    | .ok (r, s) => .ok (r, s.map .str)
  | .blob =>
    match r.readBlob with
    | .error e => .error e
    | .ok (r, data) => .ok (r, data.map .blob)

/-- Read arguments in order, each with the position it is at. -/
def readArgs (r : OscReader) : List OscType → Except Fault (OscReader × List (ℕ × Option OscArg))
  | [] => .ok (r, [])
  | t :: ts =>
    match t.read r with
    | .error e => .error e
    | .ok (r', arg) =>
      match readArgs r' ts with
      | .error e => .error e
      | .ok (r'', args) => .ok (r'', (r.pos, arg) :: args)

/-- The bytes are read back as the message: the same address, type tag and arguments, each
    argument 4-byte aligned in the packet, and nothing behind them. -/
def ReadsBack (data address typetag : List UInt8) (args : List OscArg) : Prop :=
  ∃ msg r values, oscParseMessage data data.length = .ok msg ∧ msg.valid = true ∧
    msg.address = some address ∧ msg.typetag = some typetag ∧
    readArgs (.new msg.arg_data msg.arg_size) (args.map OscArg.type) = .ok (r, values) ∧
    values.map Prod.snd = args.map some ∧
    (∀ x ∈ values, (data.length - msg.arg_size + x.1) % 4 = 0) ∧ r.atEnd = true

/-! ## Writing -/

variable {N : ℕ}

theorem OscPacket.writeBlob_bytes {p : OscPacket N} {data : List UInt8}
    (hlen : data.length < 2 ^ 32) (h : (p.writeBlob data).ok = true) :
    p.ok = true ∧ (p.writeBlob data).bytes = p.bytes ++ (OscArg.blob data).bytes := by
  obtain ⟨hok, hbytes⟩ := foldl_append_bytes h
  obtain ⟨hok', hbytes'⟩ := append_bytes hok
  obtain ⟨hok'', hbytes''⟩ := append_bytes hok'
  refine ⟨hok'', ?_⟩
  rw [writeBlob, hbytes, hbytes', writeInt32, hbytes'', BitVec.toNat_ofNat, Nat.mod_eq_of_lt hlen,
    OscArg.bytes]
  simp only [List.append_assoc]

/-- An argument that fits appends its bytes. -/
theorem OscArg.write_bytes {p : OscPacket N} {arg : OscArg} (harg : arg.Writable)
    (h : (arg.write p).ok = true) :
    p.ok = true ∧ (arg.write p).bytes = p.bytes ++ arg.bytes := by
  cases arg with
  | int32 v => exact OscPacket.append_bytes h
  | float bits => exact OscPacket.append_bytes h
  | str s => exact OscPacket.writeStr_bytes h
  | blob data => exact OscPacket.writeBlob_bytes harg h

theorem foldl_write_bytes {args : List OscArg} {p : OscPacket N}
    (hargs : ∀ arg ∈ args, arg.Writable) (h : (args.foldl OscArg.write p).ok = true) :
    p.ok = true ∧ (args.foldl OscArg.write p).bytes = p.bytes ++ args.flatMap OscArg.bytes := by
  induction args generalizing p with
  | nil => exact ⟨h, (List.append_nil _).symm⟩
  | cons arg args ih =>
    obtain ⟨hok, hbytes⟩ := ih (fun a ha => hargs a (List.mem_cons_of_mem _ ha)) h
    obtain ⟨hok', hbytes'⟩ := OscArg.write_bytes (hargs arg List.mem_cons_self) hok
    refine ⟨hok', ?_⟩
    rw [List.foldl_cons, hbytes, hbytes', List.flatMap_cons, List.append_assoc]

/-- A message that fits is its fields. -/
theorem writeMessage_bytes {address typetag : List UInt8} {args : List OscArg}
    (hargs : ∀ arg ∈ args, arg.Writable) (h : (writeMessage N address typetag args).ok = true) :
    (writeMessage N address typetag args).bytes =
      oscString address ++ (oscString typetag ++ args.flatMap OscArg.bytes) := by
  obtain ⟨hok, hbytes⟩ := foldl_write_bytes hargs h
  obtain ⟨hok', hbytes'⟩ := OscPacket.writeStr_bytes hok
  rw [writeMessage, hbytes, OscPacket.begin, hbytes', (OscPacket.writeStr_bytes hok').2]
  simp [OscPacket.new]

/-! What fits is written. -/

theorem OscPacket.append_ok {p : OscPacket N} {src : List UInt8} (hok : p.ok = true)
    (h : p.bytes.length + src.length ≤ N) : (p.append src).ok = true := by
  rw [append, if_neg (by simp [hok]), dif_neg (not_lt.2 h)]

theorem OscPacket.foldl_append_ok {bs : List UInt8} {p : OscPacket N} (hok : p.ok = true)
    (h : p.bytes.length + bs.length ≤ N) :
    (bs.foldl (fun p b => p.append [b]) p).ok = true := by
  induction bs generalizing p with
  | nil => exact hok
  | cons b bs ih =>
    rw [List.length_cons] at h
    have happend : (p.append [b]).ok = true :=
      append_ok hok (by rw [List.length_singleton]; omega)
    apply ih happend
    rw [(append_bytes happend).2, List.length_append, List.length_singleton]
    omega

/-- A block, and then padding byte by byte. -/
theorem OscPacket.padded_ok {src pad : List UInt8} {p : OscPacket N} (hok : p.ok = true)
    (h : p.bytes.length + (src ++ pad).length ≤ N) :
    (pad.foldl (fun p b => p.append [b]) (p.append src)).ok = true := by
  rw [List.length_append] at h
  have happend : (p.append src).ok = true := append_ok hok (by omega)
  apply foldl_append_ok happend
  rw [(append_bytes happend).2, List.length_append]
  omega

theorem OscPacket.writeStr_ok {p : OscPacket N} {s : List UInt8} (hok : p.ok = true)
    (h : p.bytes.length + (oscString s).length ≤ N) : (p.writeStr s).ok = true :=
  padded_ok hok h

theorem OscPacket.writeBlob_ok {p : OscPacket N} {data : List UInt8} (hok : p.ok = true)
    (h : p.bytes.length + (OscArg.blob data).bytes.length ≤ N) : (p.writeBlob data).ok = true := by
  rw [OscArg.bytes, List.length_append, be32_length] at h
  have hlen : (p.writeInt32 (BitVec.ofNat 32 data.length)).ok = true :=
    append_ok hok (by rw [be32_length]; omega)
  apply padded_ok hlen
  rw [writeInt32, (append_bytes hlen).2, List.length_append, be32_length]
  omega

theorem OscArg.write_ok {p : OscPacket N} {arg : OscArg} (hok : p.ok = true)
    (h : p.bytes.length + arg.bytes.length ≤ N) : (arg.write p).ok = true := by
  cases arg with
  | int32 v => exact OscPacket.append_ok hok h
  | float bits => exact OscPacket.append_ok hok h
  | str s => exact OscPacket.writeStr_ok hok h
  | blob data => exact OscPacket.writeBlob_ok hok h

theorem foldl_write_ok {args : List OscArg} {p : OscPacket N}
    (hargs : ∀ arg ∈ args, arg.Writable) (hok : p.ok = true)
    (h : p.bytes.length + (args.flatMap OscArg.bytes).length ≤ N) :
    (args.foldl OscArg.write p).ok = true := by
  induction args generalizing p with
  | nil => exact hok
  | cons arg args ih =>
    rw [List.flatMap_cons, List.length_append] at h
    have hok' := OscArg.write_ok hok (show p.bytes.length + arg.bytes.length ≤ N by omega)
    apply ih (fun a ha => hargs a (List.mem_cons_of_mem _ ha)) hok'
    rw [(OscArg.write_bytes (hargs arg List.mem_cons_self) hok').2, List.length_append]
    omega

/-- A message whose fields fit is written. -/
theorem writeMessage_ok (address typetag : List UInt8) {args : List OscArg}
    (hargs : ∀ arg ∈ args, arg.Writable)
    (h : (oscString address ++ (oscString typetag ++ args.flatMap OscArg.bytes)).length ≤ N) :
    (writeMessage N address typetag args).ok = true := by
  simp only [List.length_append] at h
  have haddress : ((OscPacket.new N).writeStr address).ok = true :=
    OscPacket.writeStr_ok rfl (by simp only [OscPacket.new, List.length_nil]; omega)
  have hbytes := (OscPacket.writeStr_bytes haddress).2
  have htypetag : (OscPacket.begin N address typetag).ok = true := by
    apply OscPacket.writeStr_ok haddress
    rw [hbytes, List.length_append]
    simp only [OscPacket.new, List.length_nil]
    omega
  apply foldl_write_ok hargs htypetag
  rw [OscPacket.begin, (OscPacket.writeStr_bytes htypetag).2, hbytes]
  simp only [List.length_append, OscPacket.new, List.length_nil]
  omega

/-! ## Reading back -/

theorem oscString_eq (s : List UInt8) :
    oscString s = s ++ 0 :: List.replicate (oscPad4 (s.length + 1) - (s.length + 1)) 0 := by
  simp [oscString]

theorem readStr_oscString {r : OscReader} {before rest s : List UInt8} (hs : 0 ∉ s)
    (hlen : s.length + 4 < 2 ^ 32) (h : r.At before (oscString s ++ rest)) :
    ∃ r', r.readStr = .ok (r', some s) ∧ r'.At (before ++ oscString s) rest := by
  have hpad := oscString_length hlen
  rw [oscString_eq] at h hpad ⊢
  exact OscReader.readStr_of_eq h hs hpad

/-- An argument is read back, and the reader moves behind it. -/
theorem OscArg.read_of_eq {r : OscReader} {before rest : List UInt8} {arg : OscArg}
    (harg : arg.Writable) (hfits : arg.Fits) (h : r.At before (arg.bytes ++ rest)) :
    ∃ r', arg.type.read r = .ok (r', some arg) ∧ r'.At (before ++ arg.bytes) rest := by
  cases arg with
  | int32 v =>
    obtain ⟨r', hread, hr'⟩ := OscReader.readInt32_of_eq h
    exact ⟨r', by simp [type, OscType.read, hread], hr'⟩
  | float bits =>
    obtain ⟨r', hread, hr'⟩ := OscReader.readInt32_of_eq h
    exact ⟨r', by simp [type, OscType.read, OscReader.readFloat, hread], hr'⟩
  | str s =>
    obtain ⟨r', hread, hr'⟩ := readStr_oscString harg hfits h
    exact ⟨r', by simp [type, OscType.read, hread], hr'⟩
  | blob data =>
    have hpad : (data ++ List.replicate (oscPad4 data.length - data.length) 0).length =
        oscPad4 data.length := by
      have hfits : data.length < 2 ^ 31 := hfits
      rw [List.length_append, List.length_replicate, oscPad4_of_lt (by omega)]
      omega
    obtain ⟨r', hread, hr'⟩ := OscReader.readBlob_of_eq h hfits hpad
    exact ⟨r', by simp [type, OscType.read, hread], hr'⟩

theorem oscPad4_mod (n : ℕ) : oscPad4 n % 4 = 0 := by
  rw [oscPad4, Nat.mul_mod_left]

/-- Every argument is a whole number of words. -/
theorem OscArg.bytes_length_mod {arg : OscArg} (hfits : arg.Fits) : arg.bytes.length % 4 = 0 := by
  cases arg with
  | int32 v => simp [bytes]
  | float bits => simp [bytes]
  | str s =>
    rw [bytes, oscString_length hfits]
    exact oscPad4_mod _
  | blob data =>
    have hfits : data.length < 2 ^ 31 := hfits
    simp only [bytes, List.length_append, be32_length, List.length_replicate,
      oscPad4_of_lt (show data.length + 3 < 2 ^ 32 by omega)]
    omega

theorem readArgs_of_eq {args : List OscArg} {r : OscReader} {before : List UInt8}
    (hargs : ∀ arg ∈ args, arg.Writable) (hfits : ∀ arg ∈ args, arg.Fits)
    (hbefore : before.length % 4 = 0) (h : r.At before (args.flatMap OscArg.bytes)) :
    ∃ r' values, readArgs r (args.map OscArg.type) = .ok (r', values) ∧
      values.map Prod.snd = args.map some ∧ (∀ x ∈ values, x.1 % 4 = 0) ∧ r'.atEnd = true := by
  induction args generalizing r before with
  | nil => exact ⟨r, [], rfl, rfl, fun x hx => absurd hx List.not_mem_nil, h.atEnd⟩
  | cons arg args ih =>
    have hmem := List.mem_cons_self (a := arg) (l := args)
    obtain ⟨r', hread, hr'⟩ := OscArg.read_of_eq (hargs arg hmem) (hfits arg hmem) h
    have hmod := OscArg.bytes_length_mod (hfits arg hmem)
    obtain ⟨r'', values, hreads, hvalues, halign, hend⟩ :=
      ih (fun a ha => hargs a (List.mem_cons_of_mem _ ha))
        (fun a ha => hfits a (List.mem_cons_of_mem _ ha))
        (by rw [List.length_append]; omega) hr'
    refine ⟨r'', (r.pos, some arg) :: values, ?_, ?_, ?_, hend⟩
    · simp [readArgs, hread, hreads]
    · simp [hvalues]
    · intro x hx
      rcases List.mem_cons.1 hx with rfl | hx
      · exact (congrArg (· % 4) h.pos).trans hbefore
      · exact halign x hx

/-- A message that is read back up to its arguments. -/
theorem oscParseMessage_of_eq {address typetag : List UInt8} (args : List UInt8)
    (haddress : 0 ∉ address) (htypetag : 0 ∉ typetag) (haddressLen : address.length + 4 < 2 ^ 32)
    (htypetagLen : typetag.length + 4 < 2 ^ 32) :
    oscParseMessage (oscString address ++ (oscString typetag ++ args))
      (oscString address ++ (oscString typetag ++ args)).length =
        .ok ⟨some address, some typetag, args, args.length, true⟩ := by
  have hne : oscString address ++ (oscString typetag ++ args) ≠ [] := by
    simp [oscString_ne_nil]
  obtain ⟨r, hread, hr⟩ := readStr_oscString haddress haddressLen (OscReader.at_new hne)
  obtain ⟨r', hread', hr'⟩ := readStr_oscString htypetag htypetagLen hr
  unfold oscParseMessage
  rw [hread]
  dsimp only
  rw [hread']
  simp only [hr'.valid, hr'.remaining, hr'.pos]
  simp

/-- **The codec's round trip.**  A message that fits its buffer is read back, if its strings are
    shorter than 4 GB and its blobs shorter than 2 GB. -/
theorem oscCodec_roundTrip {address typetag : List UInt8} {args : List OscArg}
    (haddress : (OscArg.str address).Writable ∧ (OscArg.str address).Fits)
    (htypetag : (OscArg.str typetag).Writable ∧ (OscArg.str typetag).Fits)
    (hargs : ∀ arg ∈ args, arg.Writable ∧ arg.Fits)
    (hok : (writeMessage N address typetag args).ok = true) :
    ReadsBack (writeMessage N address typetag args).bytes address typetag args := by
  have hwritable : ∀ arg ∈ args, arg.Writable := fun arg harg => (hargs arg harg).1
  have hfits : ∀ arg ∈ args, arg.Fits := fun arg harg => (hargs arg harg).2
  rw [writeMessage_bytes hwritable hok]
  have hparse := oscParseMessage_of_eq (args.flatMap OscArg.bytes) haddress.1 htypetag.1
    haddress.2 htypetag.2
  have hstart : ((oscString address).length + (oscString typetag).length) % 4 = 0 := by
    have h1 := OscArg.bytes_length_mod haddress.2
    have h2 := OscArg.bytes_length_mod htypetag.2
    simp only [OscArg.bytes] at h1 h2
    omega
  cases args with
  | nil => exact ⟨_, .new [] 0, [], hparse, rfl, rfl, rfl, rfl, rfl,
      fun x hx => absurd hx List.not_mem_nil, rfl⟩
  | cons arg args =>
    have hne : (arg :: args).flatMap OscArg.bytes ≠ [] := by
      have : arg.bytes ≠ [] := by
        cases arg <;> simp [OscArg.bytes, oscString_ne_nil, be32, le32]
      simp [this]
    have hfront : ([] : List UInt8).length % 4 = 0 := rfl
    obtain ⟨r, values, hread, hvalues, halign, hend⟩ :=
      readArgs_of_eq hwritable hfits hfront (OscReader.at_new hne)
    refine ⟨_, r, values, hparse, rfl, rfl, rfl, hread, hvalues, ?_, hend⟩
    intro x hx
    have hx := halign x hx
    simp only [List.length_append]
    omega

/-- A small message of every type fits its buffer exactly, and is read back. -/
theorem smallMessage_readsBack :
    ((OscArg.str (ascii "/test")).Writable ∧ (OscArg.str (ascii "/test")).Fits) ∧
      ((OscArg.str (ascii ",ifsb")).Writable ∧ (OscArg.str (ascii ",ifsb")).Fits) ∧
      (∀ arg ∈ [OscArg.int32 (-42), .float 0x3f400000, .str [], .blob [1, 2, 3]],
        arg.Writable ∧ arg.Fits) ∧
      (writeMessage 36 (ascii "/test") (ascii ",ifsb")
        [.int32 (-42), .float 0x3f400000, .str [], .blob [1, 2, 3]]).ok = true ∧
      ReadsBack (writeMessage 36 (ascii "/test") (ascii ",ifsb")
        [.int32 (-42), .float 0x3f400000, .str [], .blob [1, 2, 3]]).bytes (ascii "/test")
        (ascii ",ifsb") [.int32 (-42), .float 0x3f400000, .str [], .blob [1, 2, 3]] := by
  have haddress : (OscArg.str (ascii "/test")).Writable ∧ (OscArg.str (ascii "/test")).Fits := by
    unfold OscArg.Writable OscArg.Fits
    decide +kernel
  have htypetag : (OscArg.str (ascii ",ifsb")).Writable ∧ (OscArg.str (ascii ",ifsb")).Fits := by
    unfold OscArg.Writable OscArg.Fits
    decide +kernel
  have hargs : ∀ arg ∈ [OscArg.int32 (-42), .float 0x3f400000, .str [], .blob [1, 2, 3]],
      arg.Writable ∧ arg.Fits := by
    simp [OscArg.Writable, OscArg.Fits]
  have hok : (writeMessage 36 (ascii "/test") (ascii ",ifsb")
      [.int32 (-42), .float 0x3f400000, .str [], .blob [1, 2, 3]]).ok = true := by
    decide +kernel
  exact ⟨haddress, htypetag, hargs, hok, oscCodec_roundTrip haddress htypetag hargs hok⟩

/-! ## What is too long -/

/-- An `int32_t` length cannot say that a blob has 2 GB. -/
theorem readBlob_huge {r : OscReader} {before rest : List UInt8} {n : ℕ} (hn : 2 ^ 31 ≤ n)
    (hn' : n < 2 ^ 32) (h : r.At before (be32 n ++ rest)) :
    ∃ r', r.readBlob = .ok (r', none) := by
  have htoNat : (BitVec.ofNat 32 n).toNat = n := by
    rw [BitVec.toNat_ofNat, Nat.mod_eq_of_lt hn']
  have hraw : (BitVec.ofNat 32 n).toInt < 0 := by
    rw [BitVec.toInt_eq_toNat_cond, htoNat]
    split <;> omega
  rw [← htoNat] at h
  obtain ⟨r', hread, -⟩ := OscReader.readInt32_of_eq h
  refine ⟨r'.invalid, ?_⟩
  rw [OscReader.readBlob, hread]
  simp [hraw]

/-- The padded length of a string of 4 GB is 0 in 32 bits, so the reader does not move. -/
theorem readStr_huge {r : OscReader} {before rest s : List UInt8} (hs : 0 ∉ s)
    (hlen : s.length + 4 = 2 ^ 32) (h : r.At before (s ++ 0 :: rest)) :
    r.readStr = .ok (r, some s) := by
  have hpad : oscPad4 (s.length + 1) = 0 := by
    rw [oscPad4]
    omega
  have hread := OscReader.readStr_text h hs (by omega)
  rwa [hpad] at hread

theorem readArgs_blob_none {r r' : OscReader} (h : r.readBlob = .ok (r', none)) :
    readArgs r [.blob] = .ok (r', [(r.pos, none)]) := by
  simp [readArgs, OscType.read, h]

theorem readArgs_str {r r' : OscReader} {s : List UInt8} (h : r.readStr = .ok (r', some s)) :
    readArgs r [.str] = .ok (r', [(r.pos, some (.str s))]) := by
  simp [readArgs, OscType.read, h]

section Huge

variable {address typetag : List UInt8}
  (haddress : (OscArg.str address).Writable ∧ (OscArg.str address).Fits)
  (htypetag : (OscArg.str typetag).Writable ∧ (OscArg.str typetag).Fits)

include haddress htypetag

theorem hugeBlob_not_readsBack {data : List UInt8} (hdata : 2 ^ 31 ≤ data.length)
    (hdata' : data.length < 2 ^ 32)
    (hok : (writeMessage N address typetag [.blob data]).ok = true) :
    ¬ ReadsBack (writeMessage N address typetag [.blob data]).bytes address typetag
      [.blob data] := by
  have hwritable : ∀ arg ∈ [OscArg.blob data], arg.Writable := by
    intro arg harg
    cases List.mem_singleton.1 harg
    exact hdata'
  rw [writeMessage_bytes hwritable hok]
  rintro ⟨msg, r, values, hparse, -, -, -, hread, hvalues, -⟩
  rw [oscParseMessage_of_eq _ haddress.1 htypetag.1 haddress.2 htypetag.2] at hparse
  cases hparse
  have hbytes : [OscArg.blob data].flatMap OscArg.bytes = be32 data.length ++
      (data ++ List.replicate (oscPad4 data.length - data.length) 0) := by
    simp [OscArg.bytes]
  have hne : [OscArg.blob data].flatMap OscArg.bytes ≠ [] := by
    simp [OscArg.bytes, be32, le32]
  have hat := OscReader.at_new hne
  rw [hbytes] at hat hread
  obtain ⟨r', hblob⟩ := readBlob_huge hdata hdata' hat
  have hnone := (readArgs_blob_none hblob).symm.trans hread
  simp only [Except.ok.injEq, Prod.mk.injEq] at hnone
  rw [← hnone.2] at hvalues
  cases (List.cons.inj hvalues).1

theorem hugeString_not_readsBack {s : List UInt8} (hs : 0 ∉ s) (hlen : s.length + 4 = 2 ^ 32)
    (hok : (writeMessage N address typetag [.str s]).ok = true) :
    ¬ ReadsBack (writeMessage N address typetag [.str s]).bytes address typetag [.str s] := by
  have hwritable : ∀ arg ∈ [OscArg.str s], arg.Writable := by
    intro arg harg
    cases List.mem_singleton.1 harg
    exact hs
  rw [writeMessage_bytes hwritable hok]
  rintro ⟨msg, r, values, hparse, -, -, -, hread, -, -, hend⟩
  rw [oscParseMessage_of_eq _ haddress.1 htypetag.1 haddress.2 htypetag.2] at hparse
  cases hparse
  have hbytes : [OscArg.str s].flatMap OscArg.bytes =
      s ++ 0 :: List.replicate (oscPad4 (s.length + 1) - (s.length + 1)) 0 := by
    simp [OscArg.bytes, oscString_eq]
  have hne : [OscArg.str s].flatMap OscArg.bytes ≠ [] := by
    simp [OscArg.bytes, oscString_ne_nil]
  have hat := OscReader.at_new hne
  rw [hbytes] at hat hread
  have hstr := readStr_huge hs hlen hat
  -- the reader is still at the front
  have hfront := (readArgs_str hstr).symm.trans hread
  simp only [Except.ok.injEq, Prod.mk.injEq] at hfront
  rw [← hfront.1] at hend
  simp [OscReader.atEnd, OscReader.new] at hend

end Huge

/-- A blob of 2 GB, in a buffer that it fits, is not read back, and neither is a string of
    4 GB. -/
theorem hugeBlob_hugeString :
    (∃ N data, data.length = 2 ^ 31 ∧
      (writeMessage N (ascii "/b") (ascii ",b") [.blob data]).ok = true ∧
      ¬ ReadsBack (writeMessage N (ascii "/b") (ascii ",b") [.blob data]).bytes (ascii "/b")
        (ascii ",b") [.blob data]) ∧
    ∃ N s, s.length + 4 = 2 ^ 32 ∧ 0 ∉ s ∧
      (writeMessage N (ascii "/s") (ascii ",s") [.str s]).ok = true ∧
      ¬ ReadsBack (writeMessage N (ascii "/s") (ascii ",s") [.str s]).bytes (ascii "/s")
        (ascii ",s") [.str s] := by
  have hshort : ∀ c, c ≠ 0 → ∀ d, d ≠ 0 →
      (OscArg.str [c, d]).Writable ∧ (OscArg.str [c, d]).Fits := by
    intro c hc d hd
    simp [OscArg.Writable, OscArg.Fits, hc.symm, hd.symm]
  constructor
  · obtain ⟨data, hdata⟩ : ∃ data : List UInt8, data.length = 2 ^ 31 :=
      ⟨List.replicate (2 ^ 31) 0, List.length_replicate⟩
    have hwritable : ∀ arg ∈ [OscArg.blob data], arg.Writable := by
      intro arg harg
      cases List.mem_singleton.1 harg
      show data.length < 2 ^ 32
      omega
    have hok := writeMessage_ok (ascii "/b") (ascii ",b") hwritable le_rfl
    refine ⟨_, data, hdata, hok, ?_⟩
    exact hugeBlob_not_readsBack (hshort 47 (by decide) 98 (by decide))
      (hshort 44 (by decide) 98 (by decide)) (by omega) (by omega) hok
  · obtain ⟨s, hs, hlen⟩ : ∃ s : List UInt8, 0 ∉ s ∧ s.length + 4 = 2 ^ 32 :=
      ⟨List.replicate (2 ^ 32 - 4) 97, fun h => absurd (List.eq_of_mem_replicate h) (by decide),
        by rw [List.length_replicate]; norm_num⟩
    have hwritable : ∀ arg ∈ [OscArg.str s], arg.Writable := by
      intro arg harg
      cases List.mem_singleton.1 harg
      exact hs
    have hok := writeMessage_ok (ascii "/s") (ascii ",s") hwritable le_rfl
    refine ⟨_, s, hlen, hs, hok, ?_⟩
    exact hugeString_not_readsBack (hshort 47 (by decide) 115 (by decide))
      (hshort 44 (by decide) 115 (by decide)) hs hlen hok

end WKPairDriver.Osc
