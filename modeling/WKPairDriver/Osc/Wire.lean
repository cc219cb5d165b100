import WKPairDriver.Lib.Bytes

/-!
# OSC packets: `OscPacket<N>`

A packet under construction in a buffer of `N` bytes.  A write that does not fit clears `ok` and
every later write is ignored.

* `OscPacket.writeStr_bytes`, `OscPacket.build_bytes` — a packet that is still `ok` holds exactly
  the padded strings and the argument bytes it was given.
-/

set_option autoImplicit false

namespace WKPairDriver.Osc

open Lib.Bytes

/-- `OscPad4`; the mask `~3u` is 32 bits wide. -/
def oscPad4 (n : ℕ) : ℕ := (n + 3) % 2 ^ 32 / 4 * 4

/-- An OSC string on the wire. -/
def oscString (s : List UInt8) : List UInt8 :=
  let len := s.length + 1
  s ++ [0] ++ List.replicate (oscPad4 len - len) 0

theorem oscString_ne_nil (s : List UInt8) : oscString s ≠ [] := by
  simp [oscString]

theorem oscString_length {s : List UInt8} (h : s.length + 4 < 2 ^ 32) :
    (oscString s).length = oscPad4 (s.length + 1) := by
  simp only [oscString, oscPad4, List.length_append, List.length_cons, List.length_nil,
    List.length_replicate]
  omega

/-- The bytes written so far, which never exceed the buffer. -/
structure OscPacket (N : ℕ) where
  bytes : List UInt8
  ok : Bool
  fits : bytes.length ≤ N

namespace OscPacket

variable {N : ℕ}

def new (N : ℕ) : OscPacket N := ⟨[], true, Nat.zero_le _⟩

/-- `Append`; `AppendByte` is the append of one byte. -/
def append (p : OscPacket N) (src : List UInt8) : OscPacket N :=
  if p.ok = false then p
  else if h : p.bytes.length + src.length > N then { p with ok := false }
  else ⟨p.bytes ++ src, true, by rw [List.length_append]; omega⟩

/-- `WriteStr` of a C string: its bytes and NUL at once, then the padding byte by byte. -/
def writeStr (p : OscPacket N) (s : List UInt8) : OscPacket N :=
  let len := s.length + 1
  (List.replicate (oscPad4 len - len) 0).foldl (fun p b => p.append [b]) (p.append (s ++ [0]))

def writeInt32 (p : OscPacket N) (v : BitVec 32) : OscPacket N := p.append (be32 v.toNat)

/-- `WriteFloat`, from the bits of the float. -/
def writeFloat (p : OscPacket N) (bits : BitVec 32) : OscPacket N := p.writeInt32 bits

def writeBlob (p : OscPacket N) (data : List UInt8) : OscPacket N :=
  let len := data.length
  (List.replicate (oscPad4 len - len) 0).foldl (fun p b => p.append [b])
    ((p.writeInt32 (BitVec.ofNat 32 len)).append data)

/-- `WriteRawArgs`. -/
def writeRawArgs (p : OscPacket N) (args : List UInt8) : OscPacket N := p.append args

/-- `Begin`, on a new packet. -/
def begin (N : ℕ) (address typetag : List UInt8) : OscPacket N :=
  ((new N).writeStr address).writeStr typetag

/-- `Begin`, then the argument bytes if there are any. -/
def build (N : ℕ) (address typetag args : List UInt8) : OscPacket N :=
  let pkt := ((new N).writeStr address).writeStr typetag
  if args = [] then pkt else pkt.writeRawArgs args

theorem append_bytes {p : OscPacket N} {src : List UInt8} (h : (p.append src).ok = true) :
    p.ok = true ∧ (p.append src).bytes = p.bytes ++ src := by
  unfold append at h ⊢
  split
  · rename_i hok
    rw [if_pos hok, hok] at h
    cases h
  · rename_i hok
    rw [if_neg hok] at h
    split
    · rename_i hfull
      rw [dif_pos hfull] at h
      cases h
    · exact ⟨by simpa using hok, rfl⟩

theorem foldl_append_bytes {p : OscPacket N} {bs : List UInt8}
    (h : (bs.foldl (fun p b => p.append [b]) p).ok = true) :
    p.ok = true ∧ (bs.foldl (fun p b => p.append [b]) p).bytes = p.bytes ++ bs := by
  induction bs generalizing p with
  | nil => exact ⟨h, (List.append_nil _).symm⟩
  | cons b bs ih =>
    obtain ⟨hok, hbytes⟩ := ih h
    obtain ⟨hok', hbytes'⟩ := append_bytes hok
    refine ⟨hok', ?_⟩
    rw [List.foldl_cons, hbytes, hbytes', List.append_assoc, List.singleton_append]

theorem writeStr_bytes {p : OscPacket N} {s : List UInt8} (h : (p.writeStr s).ok = true) :
    p.ok = true ∧ (p.writeStr s).bytes = p.bytes ++ oscString s := by
  obtain ⟨hok, hbytes⟩ := foldl_append_bytes h
  obtain ⟨hok', hbytes'⟩ := append_bytes hok
  exact ⟨hok', by rw [writeStr, hbytes, hbytes', oscString, List.append_assoc,
    List.append_assoc]⟩

/-- **A packet that fits is its fields.** -/
theorem build_bytes {address typetag args : List UInt8}
    (h : (build N address typetag args).ok = true) :
    (build N address typetag args).bytes = oscString address ++ oscString typetag ++ args := by
  unfold build at h ⊢
  simp only at h ⊢
  split
  · rename_i hargs
    rw [if_pos hargs] at h
    obtain ⟨hok, hbytes⟩ := writeStr_bytes h
    rw [hbytes, (writeStr_bytes hok).2, hargs, List.append_nil]
    rfl
  · rename_i hargs
    rw [if_neg hargs] at h
    obtain ⟨hok, hbytes⟩ := append_bytes h
    obtain ⟨hok', hbytes'⟩ := writeStr_bytes hok
    rw [writeRawArgs, hbytes, hbytes', (writeStr_bytes hok').2]
    rfl

theorem build_ne_nil {address typetag args : List UInt8}
    (h : (build N address typetag args).ok = true) :
    (build N address typetag args).bytes ≠ [] := by
  rw [build_bytes h]
  simp [oscString_ne_nil]

end OscPacket

end WKPairDriver.Osc
