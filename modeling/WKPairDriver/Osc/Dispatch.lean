import Mathlib
import WKPairDriver.Osc.Reader

/-!
# OSC bundles: `OscDispatch`

The recursive descent over a packet, which calls back for each message.  The fuel bounds the depth
of the recursion and the number of elements of a bundle; bytes are read, and parts of the packet
handed on, through checked loads.

* `oscDispatch_ok` — for any bytes, the descent ends within as much fuel as there are bytes, and
  reads none but these.
* `OscTree` — a packet as OSC has it: a message, or a bundle of packets.
* `oscDispatch_encode` — the packet of a tree calls back for its messages, in order.
* `oscDispatch_exact` — exactly those packets are misread whose own message has a string of 4 GB.
-/

set_option autoImplicit false

namespace WKPairDriver.Osc

open Lib.Bytes Lib.Slice

/-- `kOscBundlePrefix`, with its NUL. -/
def oscBundlePrefix : List UInt8 := ascii "#bundle" ++ [0]

mutual

/-- `OscDispatch`: the messages that the callback is called with, in order. -/
def oscDispatch : ℕ → List UInt8 → ℕ → Except Fault (List OscMessage)
  | 0, _, _ => .error .outOfFuel
  | fuel + 1, data, size =>
    if size < 8 then .ok []
    else
      match load data 0 8 with
      | .error e => .error e
      | .ok head =>
        if head = oscBundlePrefix then
          if size < 16 then .ok [] else dispatchElements fuel data size 16
        else
          match oscParseMessage data size with
          | .error e => .error e
          | .ok msg => .ok (if msg.valid then [msg] else [])

/-- The loop over the elements of a bundle, from `pos` on. -/
def dispatchElements : ℕ → List UInt8 → ℕ → ℕ → Except Fault (List OscMessage)
  | 0, _, _, _ => .error .outOfFuel
  | fuel + 1, data, size, pos =>
    if pos + 4 ≤ size then
      match load data pos 4 with
      | .error e => .error e
      | .ok field =>
        match (OscReader.new field 4).readInt32 with
        | .error e => .error e
        | .ok (_, raw) =>
          let len := raw.toNat
          let pos := pos + 4
          if pos + len > size then .ok []
          else
            match load data pos len with
            | .error e => .error e
            | .ok element =>
              match oscDispatch fuel element len with
              | .error e => .error e
              | .ok msgs =>
                match dispatchElements fuel data size (pos + len) with
                | .error e => .error e
                | .ok msgs' => .ok (msgs ++ msgs')
    else .ok []

end

/-! ## Any bytes -/

/-- Fuel from `n` on is enough, and how much there is does not matter. -/
def Ends (n : ℕ) (f : ℕ → Except Fault (List OscMessage)) : Prop :=
  ∃ msgs, ∀ fuel, n ≤ fuel → f fuel = .ok msgs

theorem Ends.const {n : ℕ} (msgs : List OscMessage) : Ends n fun _ => .ok msgs :=
  ⟨msgs, fun _ _ => rfl⟩

theorem Ends.succ {n : ℕ} {f : ℕ → Except Fault (List OscMessage)}
    (h : Ends n fun fuel => f (fuel + 1)) : Ends (n + 1) f := by
  obtain ⟨msgs, hmsgs⟩ := h
  refine ⟨msgs, fun fuel hfuel => ?_⟩
  obtain ⟨fuel', rfl⟩ := Nat.exists_eq_add_of_le' hfuel
  exact hmsgs (fuel' + n) (Nat.le_add_left _ _)

section Step

variable {n : ℕ}
  (hdispatch : ∀ data : List UInt8, data.length < n →
    Ends n fun fuel => oscDispatch fuel data data.length)
  (helements : ∀ (data : List UInt8) (pos : ℕ), data.length - pos < n →
    Ends n fun fuel => dispatchElements fuel data data.length pos)

include helements in
theorem oscDispatch_ends {data : List UInt8} (h : data.length < n + 1) :
    Ends (n + 1) fun fuel => oscDispatch fuel data data.length := by
  apply Ends.succ
  simp only [oscDispatch]
  split
  · exact .const []
  · rename_i hsize
    rw [load_ok (by omega)]
    dsimp only
    split
    · split
      · exact .const []
      · exact helements data 16 (by omega)
    · obtain ⟨msg, hmsg⟩ := oscParseMessage_ok data
      rw [hmsg]
      exact .const _

include hdispatch helements

/-- An element is shorter than what is left of the bundle, and so is what comes behind it. -/
theorem dispatchElements_ends {data : List UInt8} {pos : ℕ} (h : data.length - pos < n + 1) :
    Ends (n + 1) fun fuel => dispatchElements fuel data data.length pos := by
  apply Ends.succ
  simp only [dispatchElements]
  split
  · rename_i hfield
    have hfour : ((data.drop pos).take 4).length = 4 := by
      rw [List.length_take, List.length_drop]
      omega
    obtain ⟨r, raw, hread, -⟩ := OscReader.readInt32_ok
      (OscReader.inside_new ((data.drop pos).take 4))
    rw [hfour] at hread
    rw [load_ok hfield]
    simp only [hread]
    split
    · exact .const []
    · rename_i hfits
      have hfits := not_lt.1 hfits
      have hlen : ((data.drop (pos + 4)).take raw.toNat).length = raw.toNat := by
        rw [List.length_take, List.length_drop]
        omega
      obtain ⟨msgs, hmsgs⟩ := hdispatch ((data.drop (pos + 4)).take raw.toNat) (by omega)
      obtain ⟨msgs', hmsgs'⟩ := helements data (pos + 4 + raw.toNat) (by omega)
      rw [hlen] at hmsgs
      refine ⟨msgs ++ msgs', fun fuel hfuel => ?_⟩
      rw [load_ok hfits]
      simp only [hmsgs fuel hfuel, hmsgs' fuel hfuel]
  · exact .const []

end Step

theorem oscDispatch_ends_all (n : ℕ) :
    (∀ data : List UInt8, data.length < n →
      Ends n fun fuel => oscDispatch fuel data data.length) ∧
    ∀ (data : List UInt8) (pos : ℕ), data.length - pos < n →
      Ends n fun fuel => dispatchElements fuel data data.length pos := by
  induction n with
  | zero => exact ⟨fun _ h => absurd h (Nat.not_lt_zero _), fun _ _ h => absurd h (Nat.not_lt_zero _)⟩
  | succ n ih => exact ⟨fun _ h => oscDispatch_ends ih.2 h,
      fun _ _ h => dispatchElements_ends ih.1 ih.2 h⟩

/-- **Any bytes.**  The descent ends, and reads no byte but those it was given. -/
theorem oscDispatch_ok (data : List UInt8) :
    ∃ msgs, ∀ fuel, data.length < fuel → oscDispatch fuel data data.length = .ok msgs :=
  (oscDispatch_ends_all (data.length + 1)).1 data (Nat.lt_succ_self _)

/-! ## Packets of OSC -/

/-- An OSC packet: a message, or a bundle of packets. -/
inductive OscTree where
  | message (address typetag args : List UInt8)
  | bundle (timetag : List UInt8) (elements : List OscTree)

/-- A string, its NUL, and NULs up to a multiple of 4 bytes. -/
def specString (s : List UInt8) : List UInt8 :=
  s ++ 0 :: List.replicate ((s.length + 4) / 4 * 4 - (s.length + 1)) 0

theorem specString_length (s : List UInt8) : (specString s).length = (s.length + 4) / 4 * 4 := by
  simp only [specString, List.length_append, List.length_cons, List.length_replicate]
  omega

namespace OscTree

mutual

/-- The bytes of a packet; an element of a bundle has its size in front of it. -/
def encode : OscTree → List UInt8
  | .message address typetag args => specString address ++ (specString typetag ++ args)
  | .bundle timetag elements => oscBundlePrefix ++ (timetag ++ encodeElements elements)

def encodeElements : List OscTree → List UInt8
  | [] => []
  | e :: es => be32 e.encode.length ++ (e.encode ++ encodeElements es)

end

mutual

/-- The messages of a packet, from left to right. -/
def messages : OscTree → List OscMessage
  | .message address typetag args => [⟨some address, some typetag, args, args.length, true⟩]
  | .bundle _ elements => messagesElements elements

def messagesElements : List OscTree → List OscMessage
  | [] => []
  | e :: es => e.messages ++ messagesElements es

end

/-- C strings, an address that is not the prefix of a bundle (it begins with `/`), a time tag of
    64 bits, and elements whose size has 32 bits. -/
inductive Wf : OscTree → Prop
  | message {address typetag args : List UInt8} (haddress : 0 ∉ address) (htypetag : 0 ∉ typetag)
    (hnotBundle : address ≠ ascii "#bundle") : Wf (.message address typetag args)
  | bundle {timetag : List UInt8} {elements : List OscTree} (htimetag : timetag.length = 8)
    (hsize : ∀ e ∈ elements, e.encode.length < 2 ^ 32) (helements : ∀ e ∈ elements, Wf e) :
    Wf (.bundle timetag elements)

/-- The padded sizes of a message's own strings have 32 bits. -/
def Fits : OscTree → Prop
  | .message address typetag _ => address.length + 4 < 2 ^ 32 ∧ typetag.length + 4 < 2 ^ 32
  | .bundle _ _ => True

/-- An element whose size has 32 bits has no string of 4 GB. -/
theorem fits_of_encode_length {tree : OscTree} (h : tree.encode.length < 2 ^ 32) : tree.Fits := by
  cases tree with
  | message address typetag args =>
    simp only [encode, List.length_append, specString_length] at h
    constructor <;> omega
  | bundle timetag elements => trivial

end OscTree

/-! ## A message's packet -/

theorem oscPad4_le (n : ℕ) : oscPad4 n ≤ n + 3 := by
  rw [oscPad4]
  omega

/-- A message whose address and type tag stand where the reader looks for them. -/
theorem oscParseMessage_text {data address typetag rest rest' : List UInt8} (haddress : 0 ∉ address)
    (htypetag : 0 ∉ typetag) (hdata : data = address ++ 0 :: rest)
    (hfits : oscPad4 (address.length + 1) ≤ data.length)
    (hdrop : data.drop (oscPad4 (address.length + 1)) = typetag ++ 0 :: rest')
    (hfits' : oscPad4 (typetag.length + 1) ≤ (typetag ++ 0 :: rest').length) :
    oscParseMessage data data.length = .ok ⟨some address, some typetag,
      data.drop (oscPad4 (address.length + 1) + oscPad4 (typetag.length + 1)),
      data.length - (oscPad4 (address.length + 1) + oscPad4 (typetag.length + 1)), true⟩ := by
  have hne : data ≠ [] := by simp [hdata]
  have hat := OscReader.at_new hne
  have hread := OscReader.readStr_text (hdata ▸ hat) haddress (by rwa [← hdata])
  rw [← hdata] at hread
  set k := oscPad4 (address.length + 1) with hk
  have hat' : ((OscReader.new data data.length).advance k).At (data.take k)
      (typetag ++ 0 :: rest') := by
    refine ⟨?_, rfl, ?_, hat.valid⟩
    · rw [← hdrop, List.take_append_drop]
      rfl
    · rw [List.length_take, min_eq_left hfits]
      exact Nat.zero_add k
  have hread' := OscReader.readStr_text hat' htypetag hfits'
  unfold oscParseMessage
  rw [hread]
  dsimp only
  rw [hread']
  simp [OscReader.advance, OscReader.remaining, OscReader.new, List.length_pos_iff.2 hne]

section Message

variable {address typetag args : List UInt8}

theorem encode_message : (OscTree.message address typetag args).encode = address ++ 0 ::
    (List.replicate ((address.length + 4) / 4 * 4 - (address.length + 1)) 0 ++
      (specString typetag ++ args)) := by
  rw [OscTree.encode, specString, List.append_assoc, List.cons_append]

theorem encode_message_length : (OscTree.message address typetag args).encode.length =
    (specString address).length + (specString typetag).length + args.length := by
  rw [OscTree.encode, ← List.append_assoc, List.length_append, List.length_append]

theorem oscPad4_eq_length {s : List UInt8} (h : s.length + 4 < 2 ^ 32) :
    oscPad4 (s.length + 1) = (specString s).length := by
  rw [specString_length, oscPad4_of_lt h]

/-- Behind an address that fits, the type tag. -/
theorem drop_encode_message (h : address.length + 4 < 2 ^ 32) :
    (OscTree.message address typetag args).encode.drop (oscPad4 (address.length + 1)) =
      typetag ++ 0 ::
        (List.replicate ((typetag.length + 4) / 4 * 4 - (typetag.length + 1)) 0 ++ args) := by
  rw [oscPad4_eq_length h, OscTree.encode, List.drop_left, specString, List.append_assoc,
    List.cons_append]

variable (haddress : 0 ∉ address) (htypetag : 0 ∉ typetag)

include haddress htypetag

/-- A message whose strings fit is parsed. -/
theorem oscParseMessage_encode
    (hfits : address.length + 4 < 2 ^ 32 ∧ typetag.length + 4 < 2 ^ 32) :
    oscParseMessage (OscTree.message address typetag args).encode
      (OscTree.message address typetag args).encode.length =
        .ok ⟨some address, some typetag, args, args.length, true⟩ := by
  have hk := oscPad4_eq_length hfits.1
  have hk' := oscPad4_eq_length hfits.2
  have hlength : (OscTree.message address typetag args).encode.length = _ := encode_message_length
  rw [oscParseMessage_text haddress htypetag encode_message (by omega)
    (drop_encode_message hfits.1), hlength, hk, hk', Nat.add_sub_cancel_left, OscTree.encode,
    ← List.append_assoc, ← List.length_append, List.drop_left]
  rw [hk', ← List.cons_append, ← List.append_assoc, ← specString, List.length_append]
  exact Nat.le_add_right _ _

/-- A message with a longer string is taken to have more argument bytes than it has: the padded
    length has lost its upper bits. -/
theorem oscParseMessage_encode_long
    (hlong : ¬ (address.length + 4 < 2 ^ 32 ∧ typetag.length + 4 < 2 ^ 32)) :
    ∃ msg, oscParseMessage (OscTree.message address typetag args).encode
      (OscTree.message address typetag args).encode.length = .ok msg ∧
        args.length < msg.arg_size := by
  have hlength : (OscTree.message address typetag args).encode.length = _ := encode_message_length
  rw [specString_length, specString_length] at hlength
  by_cases hfits : address.length + 4 < 2 ^ 32
  · -- the type tag's padded length is too small
    have hk := oscPad4_eq_length hfits
    rw [specString_length] at hk
    have hk' : oscPad4 (typetag.length + 1) ≤ typetag.length := by
      rw [oscPad4]
      omega
    refine ⟨_, oscParseMessage_text haddress htypetag encode_message (by omega)
      (drop_encode_message hfits) ?_, ?_⟩
    · rw [List.length_append]
      omega
    · show args.length < (OscTree.message address typetag args).encode.length - _
      omega
  · -- the type tag is read inside the address
    have hk : oscPad4 (address.length + 1) + 1 ≤ address.length := by
      rw [oscPad4]
      omega
    have htag : 0 ∉ address.drop (oscPad4 (address.length + 1)) :=
      fun h => haddress (List.mem_of_mem_drop h)
    have hpad := oscPad4_le ((address.drop (oscPad4 (address.length + 1))).length + 1)
    rw [List.length_drop] at hpad
    have hrest := specString_length typetag
    have hdrop : (OscTree.message address typetag args).encode.drop (oscPad4 (address.length + 1)) =
        address.drop (oscPad4 (address.length + 1)) ++ 0 :: (List.replicate ((address.length + 4) /
          4 * 4 - (address.length + 1)) 0 ++ (specString typetag ++ args)) := by
      rw [encode_message, List.drop_append_of_le_length (by omega)]
    refine ⟨_, oscParseMessage_text haddress htag encode_message (by omega) hdrop ?_, ?_⟩
    · simp only [List.length_append, List.length_cons, List.length_drop]
      omega
    · show args.length < (OscTree.message address typetag args).encode.length - _
      rw [List.length_drop]
      omega

end Message

/-! ## The descent into a packet -/

theorem take_encode_ne {address typetag args : List UInt8} (haddress : 0 ∉ address)
    (hnotBundle : address ≠ ascii "#bundle") :
    (OscTree.message address typetag args).encode.take 8 ≠ oscBundlePrefix := by
  intro h
  apply hnotBundle
  obtain ⟨rest, hrest⟩ : ∃ rest, (OscTree.message address typetag args).encode =
      address ++ 0 :: rest := ⟨_, encode_message⟩
  calc address = cstr (address ++ 0 :: rest) := (cstr_append haddress (by simp)).symm
    _ = cstr (oscBundlePrefix ++ (OscTree.message address typetag args).encode.drop 8) := by
      rw [← h, List.take_append_drop, hrest]
    _ = ascii "#bundle" := by
      rw [oscBundlePrefix, List.append_assoc]
      exact cstr_append (by decide) (by simp)

/-- A message is not taken for a bundle. -/
theorem oscDispatch_message {address typetag args : List UInt8} (haddress : 0 ∉ address)
    (hnotBundle : address ≠ ascii "#bundle") {msg : OscMessage}
    (hparse : oscParseMessage (OscTree.message address typetag args).encode
      (OscTree.message address typetag args).encode.length = .ok msg) (fuel : ℕ) :
    oscDispatch (fuel + 1) (OscTree.message address typetag args).encode
      (OscTree.message address typetag args).encode.length =
        .ok (if msg.valid then [msg] else []) := by
  have hlength : 8 ≤ (OscTree.message address typetag args).encode.length := by
    rw [encode_message_length, specString_length, specString_length]
    omega
  rw [oscDispatch, if_neg (not_lt.2 hlength), load_ok (by omega), List.drop_zero]
  simp only [if_neg (take_encode_ne haddress hnotBundle), hparse]

/-- The size in front of an element is read. -/
theorem readInt32_be32 {n : ℕ} (hn : n < 2 ^ 32) :
    ∃ r raw, (OscReader.new (be32 n) 4).readInt32 = .ok (r, raw) ∧ raw.toNat = n := by
  have htoNat : (BitVec.ofNat 32 n).toNat = n := by
    rw [BitVec.toNat_ofNat, Nat.mod_eq_of_lt hn]
  have hne : be32 n ++ [] ≠ [] := by simp [be32, le32]
  have hat := OscReader.at_new hne
  rw [← htoNat] at hat
  obtain ⟨r, hread, -⟩ := OscReader.readInt32_of_eq hat
  rw [htoNat, List.append_nil, be32_length] at hread
  exact ⟨r, _, hread, htoNat⟩

section Step

variable {fuel : ℕ}
  (hdispatch : ∀ tree : OscTree, tree.Wf → tree.Fits → tree.encode.length < fuel →
    oscDispatch fuel tree.encode tree.encode.length = .ok tree.messages)
  (helements : ∀ (before : List UInt8) (es : List OscTree), (∀ e ∈ es, e.encode.length < 2 ^ 32) →
    (∀ e ∈ es, e.Wf) → (OscTree.encodeElements es).length < fuel →
      dispatchElements fuel (before ++ OscTree.encodeElements es)
        (before ++ OscTree.encodeElements es).length before.length =
          .ok (OscTree.messagesElements es))

include helements in
theorem oscDispatch_encode_step {tree : OscTree} (hwf : tree.Wf) (hfits : tree.Fits)
    (hfuel : tree.encode.length < fuel + 1) :
    oscDispatch (fuel + 1) tree.encode tree.encode.length = .ok tree.messages := by
  cases hwf with
  | message haddress htypetag hnotBundle =>
    rw [oscDispatch_message haddress hnotBundle (oscParseMessage_encode haddress htypetag hfits)]
    rfl
  | @bundle timetag elements htimetag hsize hwf =>
    have hnotBundle : oscBundlePrefix.length = 8 := rfl
    have hbefore : (oscBundlePrefix ++ timetag).length = 16 := by
      rw [List.length_append, htimetag, hnotBundle]
    have hdata : (OscTree.bundle timetag elements).encode =
        (oscBundlePrefix ++ timetag) ++ OscTree.encodeElements elements := by
      rw [OscTree.encode, List.append_assoc]
    have hlength : (OscTree.bundle timetag elements).encode.length =
        16 + (OscTree.encodeElements elements).length := by
      rw [hdata, List.length_append, hbefore]
    have hhead : load (OscTree.bundle timetag elements).encode 0 8 = .ok oscBundlePrefix := by
      rw [hdata, List.append_assoc]
      exact load_of_eq (List.nil_append _).symm rfl hnotBundle.symm
    rw [oscDispatch, if_neg (by omega), hhead]
    simp only [if_true, if_neg (show ¬ (OscTree.bundle timetag elements).encode.length < 16 by omega),
      OscTree.messages]
    rw [hdata, ← hbefore]
    exact helements _ elements hsize hwf (by omega)

include hdispatch helements

theorem dispatchElements_encode_step {before : List UInt8} {es : List OscTree}
    (hsize : ∀ e ∈ es, e.encode.length < 2 ^ 32) (hwf : ∀ e ∈ es, e.Wf)
    (hfuel : (OscTree.encodeElements es).length < fuel + 1) :
    dispatchElements (fuel + 1) (before ++ OscTree.encodeElements es)
      (before ++ OscTree.encodeElements es).length before.length =
        .ok (OscTree.messagesElements es) := by
  cases es with
  | nil =>
    rw [dispatchElements, if_neg (by simp [OscTree.encodeElements])]
    rfl
  | cons e es =>
    have hmem := List.mem_cons_self (a := e) (l := es)
    have hdata : OscTree.encodeElements (e :: es) =
        be32 e.encode.length ++ (e.encode ++ OscTree.encodeElements es) := by
      rw [OscTree.encodeElements]
    have hlength : (OscTree.encodeElements (e :: es)).length =
        4 + (e.encode.length + (OscTree.encodeElements es).length) := by
      rw [hdata, List.length_append, List.length_append, be32_length]
    obtain ⟨r, raw, hread, hraw⟩ := readInt32_be32 (hsize e hmem)
    have hdata' : before ++ OscTree.encodeElements (e :: es) =
        (before ++ be32 e.encode.length) ++ (e.encode ++ OscTree.encodeElements es) := by
      rw [hdata, List.append_assoc]
    have hfield : load (before ++ OscTree.encodeElements (e :: es)) before.length 4 =
        .ok (be32 e.encode.length) := load_of_eq (by rw [hdata]) rfl (be32_length _).symm
    have helement : load (before ++ OscTree.encodeElements (e :: es)) (before.length + 4)
        e.encode.length = .ok e.encode :=
      load_of_eq hdata' (by rw [List.length_append, be32_length]) rfl
    have hrest := helements (before ++ be32 e.encode.length ++ e.encode) es
      (fun a ha => hsize a (List.mem_cons_of_mem _ ha))
      (fun a ha => hwf a (List.mem_cons_of_mem _ ha)) (by omega)
    have hfirst := hdispatch e (hwf e hmem) (OscTree.fits_of_encode_length (hsize e hmem)) (by omega)
    have hpos : (before ++ be32 e.encode.length ++ e.encode).length =
        before.length + 4 + e.encode.length := by
      rw [List.length_append, List.length_append, be32_length]
    rw [hpos, List.append_assoc, ← hdata'] at hrest
    rw [dispatchElements, if_pos (by rw [List.length_append]; omega), hfield]
    simp only [hread, hraw, helement, hfirst, hrest, OscTree.messagesElements]
    rw [if_neg (by rw [List.length_append]; omega)]

end Step

theorem oscDispatch_encode_all (fuel : ℕ) :
    (∀ tree : OscTree, tree.Wf → tree.Fits → tree.encode.length < fuel →
      oscDispatch fuel tree.encode tree.encode.length = .ok tree.messages) ∧
    ∀ (before : List UInt8) (es : List OscTree), (∀ e ∈ es, e.encode.length < 2 ^ 32) →
      (∀ e ∈ es, e.Wf) → (OscTree.encodeElements es).length < fuel →
        dispatchElements fuel (before ++ OscTree.encodeElements es)
          (before ++ OscTree.encodeElements es).length before.length =
            .ok (OscTree.messagesElements es) := by
  induction fuel with
  | zero => exact ⟨fun _ _ _ h => absurd h (Nat.not_lt_zero _),
      fun _ _ _ _ h => absurd h (Nat.not_lt_zero _)⟩
  | succ fuel ih => exact ⟨fun _ => oscDispatch_encode_step ih.2,
      fun _ _ => dispatchElements_encode_step ih.1 ih.2⟩

/-- The packet of a tree calls back for each of its messages, from left to right. -/
theorem oscDispatch_encode {tree : OscTree} (hwf : tree.Wf) (hfits : tree.Fits) {fuel : ℕ}
    (hfuel : tree.encode.length < fuel) :
    oscDispatch fuel tree.encode tree.encode.length = .ok tree.messages :=
  (oscDispatch_encode_all fuel).1 tree hwf hfits hfuel

/-- A message with a string of 4 GB is called back for with other bytes. -/
theorem oscDispatch_encode_long {tree : OscTree} (hwf : tree.Wf) (hlong : ¬ tree.Fits) (fuel : ℕ) :
    oscDispatch (fuel + 1) tree.encode tree.encode.length ≠ .ok tree.messages := by
  cases hwf with
  | message haddress htypetag hnotBundle =>
    obtain ⟨msg, hparse, hsize⟩ := oscParseMessage_encode_long haddress htypetag hlong
    rw [oscDispatch_message haddress hnotBundle hparse, OscTree.messages]
    intro h
    have h := Except.ok.inj h
    split at h
    · have h := congrArg OscMessage.arg_size (List.cons.inj h).1
      exact hsize.ne' h
    · cases h
  | bundle => exact absurd trivial hlong

/-- The descent ends, within the bytes it was given, and a packet of OSC calls back once for each
    of its messages, from left to right, with that message's bytes. -/
def DispatchesExactly (data : List UInt8) : Prop :=
  ∃ msgs, (∀ fuel, data.length < fuel → oscDispatch fuel data data.length = .ok msgs) ∧
    ∀ tree : OscTree, tree.Wf → tree.encode = data → msgs = tree.messages

/-- **OSC dispatch.**  For exactly those bytes it does what it is for that are not one message
    with a string of 4 GB. -/
theorem oscDispatch_exact (data : List UInt8) :
    DispatchesExactly data ↔ ∀ tree : OscTree, tree.Wf → tree.encode = data → tree.Fits := by
  constructor
  · rintro ⟨msgs, hmsgs, hexact⟩ tree hwf rfl
    by_contra hlong
    apply oscDispatch_encode_long hwf hlong tree.encode.length
    rw [hmsgs _ (Nat.lt_succ_self _), hexact tree hwf rfl]
  · intro hfits
    obtain ⟨msgs, hmsgs⟩ := oscDispatch_ok data
    refine ⟨msgs, hmsgs, ?_⟩
    rintro tree hwf rfl
    have h := oscDispatch_encode hwf (hfits tree hwf rfl) (Nat.lt_succ_self _)
    rw [hmsgs _ (Nat.lt_succ_self _)] at h
    exact Except.ok.inj h

/-- A message with an address of 4 GB. -/
theorem hugeAddress_not_dispatched :
    ∃ address : List UInt8, address.length + 4 = 2 ^ 32 ∧ address.head? = some 47 ∧
      (OscTree.message address (ascii ",") []).Wf ∧
      ¬ DispatchesExactly (OscTree.message address (ascii ",") []).encode := by
  obtain ⟨s, hs, hlen⟩ : ∃ s : List UInt8, 0 ∉ s ∧ s.length + 5 = 2 ^ 32 :=
    ⟨List.replicate (2 ^ 32 - 5) 97, fun h => absurd (List.eq_of_mem_replicate h) (by decide),
      by rw [List.length_replicate]; norm_num⟩
  have hwf : (OscTree.message (47 :: s) (ascii ",") []).Wf := by
    refine .message (by simp [hs]) (by decide) ?_
    intro h
    cases (List.cons.inj h).1
  have hlength : (47 :: s).length + 4 = 2 ^ 32 := by
    rw [List.length_cons, ← hlen]
  refine ⟨47 :: s, hlength, rfl, hwf, ?_⟩
  rw [oscDispatch_exact]
  intro h
  have hfits : (47 :: s).length + 4 < 2 ^ 32 ∧ _ := h _ hwf rfl
  omega

end WKPairDriver.Osc
