import TlsListener.Network.Ip
import TlsListener.Proofs.Text.Pieces

/-!
# Reading addresses off their texts

The text of an address determines it. Numbers are written in digits, and neither the point nor the
colon is one, so the numbers of an address are the pieces between these. Where a run of zeros is
left out an empty piece stands for it. The groups before and after the run are then told apart, and
the zeros make up what is missing of eight groups.

Only the texts of the addresses of sixteen bytes have colons, and among these only the texts of
those that embed an address of four bytes have points. So the text also tells how it was written.

The bytes of an address determine it as well. An address is given by four or by sixteen bytes, and
by any that many.
-/

namespace TlsListener.Ip

section Digits

variable {base m n : Nat} {c : Char}

theorem digitChar_inj (hm : m < 16) (hn : n < 16) (h : m.digitChar = n.digitChar) : m = n := by
  have every : ∀ m n : Fin 16, m.val.digitChar = n.val.digitChar → m = n := by decide
  exact congrArg Fin.val (every ⟨m, hm⟩ ⟨n, hn⟩ h)

/-- The digits of a number determine it. -/
theorem toDigits_inj (least : 1 < base) (most : base ≤ 16)
    (h : base.toDigits m = base.toDigits n) : m = n := by
  induction m using Nat.strongRecOn generalizing n with
  | ind m ih =>
      have last (k : Nat) : k % base < 16 := Nat.lt_of_lt_of_le (Nat.mod_lt k (by omega)) most
      rw [Nat.toDigits_eq_if least, Nat.toDigits_eq_if least (n := n)] at h
      by_cases short : m < base <;> by_cases short' : n < base
      · rw [if_pos short, if_pos short'] at h
        exact digitChar_inj (by omega) (by omega) (List.singleton_inj.mp h)
      · rw [if_pos short, if_neg short'] at h
        have none : base.toDigits (n / base) = [] := by
          simpa using congrArg List.length h
        exact absurd none Nat.toDigits_ne_nil
      · rw [if_neg short, if_pos short'] at h
        have none : base.toDigits (m / base) = [] := by
          simpa using congrArg List.length h
        exact absurd none Nat.toDigits_ne_nil
      · rw [if_neg short, if_neg short'] at h
        obtain ⟨front, back⟩ := List.append_inj' h rfl
        have quotient : m / base = n / base :=
          ih (m / base) (Nat.div_lt_self (by omega) least) front
        have remainder : m % base = n % base :=
          digitChar_inj (last m) (last n) (List.singleton_inj.mp back)
        rw [← Nat.div_add_mod m base, ← Nat.div_add_mod n base, quotient, remainder]

theorem notMem_toDigits (least : 1 < base) (most : base ≤ 16)
    (other : ∀ digit < 16, c ≠ Nat.digitChar digit) : c ∉ base.toDigits n := by
  induction n using Nat.strongRecOn with
  | ind n ih =>
      rw [Nat.toDigits_eq_if least]
      split
      · next short =>
          rw [List.mem_singleton]
          exact other n (by omega)
      · next long =>
          have last : n % base < 16 := Nat.lt_of_lt_of_le (Nat.mod_lt n (by omega)) most
          rw [List.mem_append, List.mem_singleton, not_or]
          exact ⟨ih (n / base) (Nat.div_lt_self (by omega) least), other _ last⟩

end Digits

section Dotted

variable {a b c d a' b' c' d' : UInt8}

/-- A byte in decimal. -/
def decimal (byte : UInt8) : List Char :=
  Nat.toDigits 10 byte.toNat

theorem toList_dotted : (dotted a b c d).toList = ['.'].intercalate ([a, b, c, d].map decimal) := by
  simp [dotted, decimal, List.intercalate_cons_cons]
  rfl

theorem colon_notMem_dotted : ':' ∉ (dotted a b c d).toList := by
  rw [toList_dotted, mem_intercalate_iff (by decide)]
  rintro ⟨piece, member, colon⟩
  obtain ⟨byte, -, rfl⟩ := List.mem_map.mp member
  exact notMem_toDigits (by decide) (by decide) (by decide) colon

theorem point_mem_dotted : '.' ∈ (dotted a b c d).toList := by
  rw [toList_dotted]
  simp [List.intercalate_cons_cons]

/-- The four numbers between the points determine the bytes. -/
theorem dotted_inj (h : dotted a b c d = dotted a' b' c' d') :
    a = a' ∧ b = b' ∧ c = c' ∧ d = d' := by
  have bare (bytes : List UInt8) : ∀ piece ∈ bytes.map decimal, '.' ∉ piece := by
    intro piece member
    obtain ⟨byte, -, rfl⟩ := List.mem_map.mp member
    exact notMem_toDigits (by decide) (by decide) (by decide)
  have pieces : [a, b, c, d].map decimal = [a', b', c', d'].map decimal := by
    rw [← List.splitOn_intercalate '.' (bare [a, b, c, d]) (by simp), ← toList_dotted, h,
      toList_dotted, List.splitOn_intercalate '.' (bare [a', b', c', d']) (by simp)]
  have inj : Function.Injective decimal := fun x y same =>
    UInt8.toNat_inj.mp (toDigits_inj (by decide) (by decide) same)
  simpa using (List.map_injective_iff.mpr inj) pieces

end Dotted

section Compressed

variable {groups groups' front front' back back' : List UInt16} {text : String}

/-- A group in base sixteen. -/
def digits (group : UInt16) : List Char :=
  Nat.toDigits 16 group.toNat

theorem digits_ne_nil {group : UInt16} : digits group ≠ [] :=
  Nat.toDigits_ne_nil

theorem digits_injective : Function.Injective digits := fun _ _ same =>
  UInt16.toNat_inj.mp (toDigits_inj (by decide) (by decide) same)

/-- What stands between the colons in a text of groups. No groups at all leave one empty piece. -/
def pieces : List UInt16 → List (List Char)
  | [] => [[]]
  | groups => groups.map digits

theorem pieces_of_ne_nil (some : groups ≠ []) : pieces groups = groups.map digits := by
  cases groups with
  | nil => exact absurd rfl some
  | cons group groups => rfl

/-- There is an empty piece only where there are no groups. -/
theorem nil_mem_pieces_iff : [] ∈ pieces groups ↔ groups = [] := by
  constructor
  · intro member
    by_contra some
    rw [pieces_of_ne_nil some] at member
    obtain ⟨group, -, none⟩ := List.mem_map.mp member
    exact digits_ne_nil none
  · rintro rfl
    exact List.mem_singleton.mpr rfl

theorem pieces_inj (h : pieces groups = pieces groups') : groups = groups' := by
  by_cases none : groups = []
  · have none' : groups' = [] := nil_mem_pieces_iff.mp (h ▸ nil_mem_pieces_iff.mpr none)
    rw [none, none']
  · have some' : groups' ≠ [] := fun none' =>
      none (nil_mem_pieces_iff.mp (h ▸ nil_mem_pieces_iff.mpr none'))
    rw [pieces_of_ne_nil none, pieces_of_ne_nil some'] at h
    exact (List.map_injective_iff.mpr digits_injective) h

theorem toList_colons : (colons groups).toList = [':'].intercalate (groups.map digits) := by
  have shown : String.toList ∘ (fun group : UInt16 => Text.hex group.toNat) = digits :=
    funext fun group => String.toList_ofList
  have colon : ":".toList = [':'] := rfl
  rw [colons, String.toList_intercalate, List.map_map, shown, colon]

theorem splitOn_colons : (colons groups).toList.splitOn ':' = pieces groups := by
  rw [toList_colons]
  cases groups with
  | nil => rfl
  | cons group groups =>
      refine List.splitOn_intercalate ':' (fun piece member => ?_) (by simp)
      obtain ⟨group, -, rfl⟩ := List.mem_map.mp member
      exact notMem_toDigits (by decide) (by decide) (by decide)

theorem point_notMem_colons : '.' ∉ (colons groups).toList := by
  rw [toList_colons, mem_intercalate_iff (by decide)]
  rintro ⟨piece, member, point⟩
  obtain ⟨group, -, rfl⟩ := List.mem_map.mp member
  exact notMem_toDigits (by decide) (by decide) (by decide) point

/-- A text of groups: all of them, or those before and after a run of zeros. -/
inductive Writes (groups : List UInt16) : String → Prop where
  | whole : Writes groups (colons groups)
  | cut {front back : List UInt16} {count : Nat} :
      groups = front ++ List.replicate count 0 ++ back →
        Writes groups (colons front ++ "::" ++ colons back)

theorem eq_replicate_append_drop {length : Nat} (h : length ≤ leadingZeros groups) :
    groups = List.replicate length 0 ++ groups.drop length := by
  induction length generalizing groups with
  | zero => rfl
  | succ length ih =>
      cases groups with
      | nil => simp [leadingZeros] at h
      | cons group groups =>
          by_cases zero : group = 0
          · subst zero
            have fewer : length ≤ leadingZeros groups := by simpa [leadingZeros] using h
            rw [List.replicate_succ, List.cons_append, List.drop_succ_cons, ← ih fewer]
          · simp [leadingZeros, zero] at h

/-- There are that many zeros where the longest run of zeros is said to begin. -/
theorem longestZeros_le (groups : List UInt16) :
    (longestZeros groups).2 ≤ leadingZeros (groups.drop (longestZeros groups).1) := by
  refine List.foldlRecOn (motive := fun best : Nat × Nat =>
    best.2 ≤ leadingZeros (groups.drop best.1)) _ _ (Nat.zero_le _) ?_
  intro best held start _
  dsimp only
  split
  · exact Nat.le_refl _
  · exact held

theorem writes_compressed : Writes groups (compressed groups) := by
  rw [compressed]
  split
  next start length longest =>
  split
  · exact .whole
  · have zeros : length ≤ leadingZeros (groups.drop start) := by
      have held := longestZeros_le groups
      rwa [longest] at held
    have rest := eq_replicate_append_drop zeros
    rw [List.drop_drop] at rest
    have cut : groups =
        groups.take start ++ List.replicate length 0 ++ groups.drop (start + length) := by
      rw [List.append_assoc, ← rest, List.take_append_drop]
    exact .cut cut

theorem splitOn_cut : (colons front ++ "::" ++ colons back).toList.splitOn ':' =
    pieces front ++ [] :: pieces back := by
  have joined : (colons front ++ "::" ++ colons back).toList =
      [':'].intercalate [(colons front).toList, [], (colons back).toList] := by
    simp [List.intercalate_cons_cons]
  rw [joined, splitOn_intercalate_eq_flatMap (by simp)]
  simp [splitOn_colons]

/-- The empty piece that stands for a run of zeros divides the groups before it from those after
it. -/
theorem cut_inj (h : pieces front ++ [] :: pieces back = pieces front' ++ [] :: pieces back') :
    front = front' ∧ back = back' := by
  cases front with
  | nil =>
      cases front' with
      | nil => exact ⟨rfl, pieces_inj (List.cons.inj (List.cons.inj h).2).2⟩
      | cons group front' => exact absurd (List.cons.inj h).1.symm digits_ne_nil
  | cons group front =>
      cases front' with
      | nil => exact absurd (List.cons.inj h).1 digits_ne_nil
      | cons group' front' =>
          have out : [] ∉ pieces (group :: front) := mt nil_mem_pieces_iff.mp (by simp)
          have out' : [] ∉ pieces (group' :: front') := mt nil_mem_pieces_iff.mp (by simp)
          obtain ⟨before, after⟩ := append_cons_inj out out' h
          exact ⟨pieces_inj before, pieces_inj after⟩

/-- All groups leave no empty piece, groups that are cut do. -/
theorem whole_ne_cut (some : groups ≠ []) :
    colons groups ≠ colons front ++ "::" ++ colons back := by
  intro same
  have cut : pieces groups = pieces front ++ [] :: pieces back := by
    rw [← splitOn_colons, same, splitOn_cut]
  have member : [] ∈ pieces groups := by simp [cut]
  exact some (nil_mem_pieces_iff.mp member)

/-- No two lists of as many groups have the same text. -/
theorem Writes.inj (size : groups.length = groups'.length) (some : groups ≠ [])
    (writes : Writes groups text) (writes' : Writes groups' text) : groups = groups' := by
  have some' : groups' ≠ [] := by
    rw [← List.length_pos_iff] at some ⊢
    omega
  generalize same : text = text' at writes'
  cases writes with
  | whole =>
      cases writes' with
      | whole => exact pieces_inj (by rw [← splitOn_colons, same, splitOn_colons])
      | cut => exact absurd same (whole_ne_cut some)
  | @cut front back count run =>
      cases writes' with
      | whole => exact absurd same.symm (whole_ne_cut some')
      | @cut front' back' count' run' =>
          obtain ⟨rfl, rfl⟩ : front = front' ∧ back = back' :=
            cut_inj (by rw [← splitOn_cut, same, splitOn_cut])
          have missing : count = count' := by
            rw [run, run'] at size
            simp only [List.length_append, List.length_replicate] at size
            omega
          rw [run, run', missing]

theorem Writes.point_notMem (writes : Writes groups text) : '.' ∉ text.toList := by
  cases writes with
  | whole => exact point_notMem_colons
  | cut run => simp [point_notMem_colons]

theorem Writes.colon_mem (several : 1 < groups.length) (writes : Writes groups text) :
    ':' ∈ text.toList := by
  cases writes with
  | whole =>
      obtain _ | ⟨first, _ | ⟨second, rest⟩⟩ := groups
      · cases several
      · exact absurd several (Nat.lt_irrefl 1)
      · rw [toList_colons, List.map_cons, List.map_cons, List.intercalate_cons_cons]
        simp
  | cut run => simp

end Compressed

section Text

variable {groups groups' : List UInt16} {text : String} {ip ip' : Ip}

theorem toNat_bytesOf (group : UInt16) :
    (bytesOf group).1.toNat * 256 + (bytesOf group).2.toNat = group.toNat := by
  have bound : group.toNat < 65536 := group.toNat_lt
  simp [bytesOf, Nat.shiftRight_eq_div_pow]
  omega

/-- The two bytes of a group determine it. -/
theorem bytesOf_inj {group group' : UInt16} (h : bytesOf group = bytesOf group') :
    group = group' := by
  rw [← UInt16.toNat_inj, ← toNat_bytesOf group, ← toNat_bytesOf group', h]

/-- The text of an address of sixteen bytes is that of its groups, but where it embeds an address of
four bytes. -/
inductive Shows (groups : List UInt16) : String → Prop where
  | embedded {high low : UInt16} : groups = [0, 0, 0, 0, 0, 0xFFFF, high, low] →
      Shows groups ("::ffff:" ++
        dotted (bytesOf high).1 (bytesOf high).2 (bytesOf low).1 (bytesOf low).2)
  | groups {text : String} : Writes groups text → Shows groups text

theorem shows_text (groups : Vector UInt16 8) : Shows groups.toList (v6 groups).text := by
  rw [Ip.text]
  split
  · next high low embeds => exact .embedded embeds
  · exact .groups writes_compressed

theorem Shows.inj (size : groups.length = groups'.length) (some : groups ≠ [])
    (shows : Shows groups text) (shows' : Shows groups' text) : groups = groups' := by
  generalize same : text = text' at shows'
  cases shows with
  | @embedded high low embeds =>
      cases shows' with
      | @embedded high' low' embeds' =>
          obtain ⟨one, two, three, four⟩ := dotted_inj ((String.append_right_inj _).mp same)
          have first : high = high' := bytesOf_inj (Prod.ext one two)
          have second : low = low' := bytesOf_inj (Prod.ext three four)
          rw [embeds, embeds', first, second]
      | groups writes' =>
          exact absurd (by simp [← same, point_mem_dotted]) writes'.point_notMem
  | groups writes =>
      cases shows' with
      | embedded => exact absurd (by simp [same, point_mem_dotted]) writes.point_notMem
      | groups writes' => exact writes.inj size some (same ▸ writes')

/-- Only the texts of addresses of sixteen bytes have colons. -/
theorem colon_mem_text (groups : Vector UInt16 8) : ':' ∈ (v6 groups).text.toList := by
  have shows := shows_text groups
  generalize (v6 groups).text = text at shows
  cases shows with
  | embedded => simp
  | groups writes => exact writes.colon_mem (by simp)

/-- The text of an address determines it. -/
theorem text_inj (h : ip.text = ip'.text) : ip = ip' := by
  cases ip with
  | v4 a b c d =>
      cases ip' with
      | v4 a' b' c' d' =>
          obtain ⟨rfl, rfl, rfl, rfl⟩ := dotted_inj h
          rfl
      | v6 groups' => exact absurd (h ▸ colon_mem_text groups') colon_notMem_dotted
  | v6 groups =>
      cases ip' with
      | v4 a' b' c' d' => exact absurd (h ▸ colon_mem_text groups) colon_notMem_dotted
      | v6 groups' =>
          have size : groups.toList.length = groups'.toList.length := by simp
          have some : groups.toList ≠ [] := List.ne_nil_of_length_pos (by simp)
          have same : groups.toList = groups'.toList :=
            Shows.inj size some (shows_text groups) (h ▸ shows_text groups')
          rw [Vector.toList_inj.mp same]

end Text

section Bytes

/-- The bytes of groups, the high one of each first. -/
def bytesOfGroups (groups : List UInt16) : List UInt8 :=
  groups.flatMap fun group => [(bytesOf group).1, (bytesOf group).2]

/-- The bytes that an address is given by. -/
def bytes : Ip → List UInt8
  | v4 a b c d => [a, b, c, d]
  | v6 groups => bytesOfGroups groups.toList

theorem bytesOfGroups_cons (group : UInt16) (groups : List UInt16) :
    bytesOfGroups (group :: groups) =
      (bytesOf group).1 :: (bytesOf group).2 :: bytesOfGroups groups := rfl

theorem toNat_group (high low : UInt8) :
    (high.toUInt16 <<< 8 ||| low.toUInt16).toNat = high.toNat * 256 + low.toNat := by
  have bound : high.toNat < 256 := high.toNat_lt
  have bound' : low.toNat < 256 := low.toNat_lt
  have joined : 2 ^ 8 * high.toNat + low.toNat = 2 ^ 8 * high.toNat ||| low.toNat :=
    Nat.two_pow_add_eq_or_of_lt bound' high.toNat
  simp only [UInt16.toNat_or, UInt16.toNat_shiftLeft, UInt8.toNat_toUInt16, Nat.shiftLeft_eq]
  simp
  rw [Nat.mod_eq_of_lt (by omega), Nat.mul_comm]
  exact joined.symm

/-- Two bytes make up the group that has them. -/
theorem bytesOf_group (high low : UInt8) :
    bytesOf (high.toUInt16 <<< 8 ||| low.toUInt16) = (high, low) := by
  have whole := toNat_bytesOf (high.toUInt16 <<< 8 ||| low.toUInt16)
  rw [toNat_group] at whole
  generalize bytesOf (high.toUInt16 <<< 8 ||| low.toUInt16) = pair at whole ⊢
  have bound : low.toNat < 256 := low.toNat_lt
  have bound' : pair.2.toNat < 256 := pair.2.toNat_lt
  have first : pair.1.toNat = high.toNat := by omega
  have second : pair.2.toNat = low.toNat := by omega
  exact Prod.ext (UInt8.toNat_inj.mp first) (UInt8.toNat_inj.mp second)

theorem group_bytesOf (group : UInt16) :
    (bytesOf group).1.toUInt16 <<< 8 ||| (bytesOf group).2.toUInt16 = group := by
  rw [← UInt16.toNat_inj, toNat_group, toNat_bytesOf]

theorem groupsOfBytes_bytesOfGroups (groups : List UInt16) :
    groupsOfBytes (bytesOfGroups groups) = groups := by
  induction groups with
  | nil => rfl
  | cons group groups ih => rw [bytesOfGroups_cons, groupsOfBytes, group_bytesOf, ih]

theorem length_bytesOfGroups (groups : List UInt16) :
    (bytesOfGroups groups).length = 2 * groups.length := by
  induction groups with
  | nil => rfl
  | cons group groups ih =>
      rw [bytesOfGroups_cons, List.length_cons, List.length_cons, List.length_cons, ih]
      omega

theorem bytesOfGroups_groupsOfBytes {count : Nat} {bytes : List UInt8}
    (even : bytes.length = 2 * count) : bytesOfGroups (groupsOfBytes bytes) = bytes := by
  induction count generalizing bytes with
  | zero =>
      rw [List.length_eq_zero_iff.mp even]
      rfl
  | succ count ih =>
      obtain _ | ⟨high, _ | ⟨low, rest⟩⟩ := bytes
      · cases even
      · simp at even
        omega
      · have fewer : rest.length = 2 * count := by
          simp only [List.length_cons] at even
          omega
        rw [groupsOfBytes, bytesOfGroups_cons, bytesOf_group, ih fewer]

theorem ofBytes?_of_sixteen {bytes : List UInt8} (sixteen : bytes.length = 16) :
    ∃ groups : Vector UInt16 8,
      ofBytes? bytes = some (v6 groups) ∧ (v6 groups).bytes = bytes := by
  have even : bytes.length = 2 * 8 := sixteen
  have whole : bytesOfGroups (groupsOfBytes bytes) = bytes := bytesOfGroups_groupsOfBytes even
  have eight : (groupsOfBytes bytes).toArray.size = 8 := by
    have count := length_bytesOfGroups (groupsOfBytes bytes)
    rw [whole, sixteen] at count
    rw [List.size_toArray]
    omega
  refine ⟨⟨(groupsOfBytes bytes).toArray, eight⟩, ?_, whole⟩
  unfold ofBytes?
  split
  · cases sixteen
  · rw [if_pos sixteen]
    exact dif_pos eight

theorem ofBytes?_eq_none {bytes : List UInt8} (four : bytes.length ≠ 4)
    (sixteen : bytes.length ≠ 16) : ofBytes? bytes = none := by
  unfold ofBytes?
  split
  · exact absurd rfl four
  · exact if_neg sixteen

theorem length_bytes (ip : Ip) : ip.bytes.length = 4 ∨ ip.bytes.length = 16 := by
  cases ip with
  | v4 => exact .inl rfl
  | v6 groups => exact .inr (by rw [bytes, length_bytesOfGroups, Vector.length_toList])

/-- Bytes stand for an address exactly if there are four or sixteen of them. -/
theorem exists_bytes_iff {bytes : List UInt8} :
    (∃ ip : Ip, ip.bytes = bytes) ↔ bytes.length = 4 ∨ bytes.length = 16 := by
  constructor
  · rintro ⟨ip, rfl⟩
    exact length_bytes ip
  · rintro (four | sixteen)
    · obtain ⟨a, b, c, d, rfl⟩ := List.length_eq_four.mp four
      exact ⟨v4 a b c d, rfl⟩
    · obtain ⟨groups, -, whole⟩ := ofBytes?_of_sixteen sixteen
      exact ⟨v6 groups, whole⟩

theorem ofBytes?_bytes (ip : Ip) : ofBytes? ip.bytes = some ip := by
  cases ip with
  | v4 => rfl
  | v6 groups =>
      have sixteen : (v6 groups).bytes.length = 16 := by
        rw [bytes, length_bytesOfGroups, Vector.length_toList]
      obtain ⟨groups', found, same⟩ := ofBytes?_of_sixteen sixteen
      have same' : groups' = groups := by
        rw [← Vector.toList_inj, ← groupsOfBytes_bytesOfGroups groups'.toList,
          ← groupsOfBytes_bytesOfGroups groups.toList]
        exact congrArg groupsOfBytes same
      rw [found, same']

/-- The address that bytes stand for is the one that has them. -/
theorem ofBytes?_eq_some_iff {bytes : List UInt8} {ip : Ip} :
    ofBytes? bytes = some ip ↔ ip.bytes = bytes := by
  constructor
  · intro found
    have length : bytes.length = 4 ∨ bytes.length = 16 := by
      by_contra neither
      rw [not_or] at neither
      rw [ofBytes?_eq_none neither.1 neither.2] at found
      cases found
    obtain ⟨ip', rfl⟩ := exists_bytes_iff.mpr length
    rw [ofBytes?_bytes] at found
    rw [Option.some.inj found]
  · rintro rfl
    exact ofBytes?_bytes ip

end Bytes

end TlsListener.Ip
