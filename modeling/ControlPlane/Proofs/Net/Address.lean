import ControlPlane.Net.Address
import ControlPlane.Proofs.Text.Digits

/-!
# Addresses that are read back

The text of a socket address is read as that address.  There are four groups.

* Four octets.  `scanIpv4_text` reads a dotted address, and `scanIpv4_eq_none` says when
  there is none, since a group of an IPv6 address is tried as one first.
* Groups.  `scanGroups_groupsText` reads groups up to a place where none comes next, which
  is what `Rests` describes.
* Zeros.  `longestZeros_split` says that the run which is left out of a text is one of
  zeros.
* `parse?_text` puts the parts together.
-/

namespace ControlPlane.Net

open Text

theorem stops_of_head {digit : Char → Option Nat} {c : Char} {cs : List Char}
    (h : digit c = none) : Stops digit (c :: cs) := stops_cons.2 h

/-! ## Four octets -/

theorem scanOctet_append (o : UInt8) {rest : List Char} (hrest : Stops digit? rest) :
    scanOctet (Nat.toDigits 10 o.toNat ++ rest) = some (o, rest) := by
  obtain ⟨ds, hds⟩ := exists_spelling (by decide : 1 < 10) o.toNat
  have hlt : o.toNat < 256 := o.toNat_lt
  have hlength : ds.length ≤ 3 := by
    have hle : (Nat.toDigits 10 o.toNat).length ≤ 3 :=
      (Nat.length_toDigits_le_iff (by decide) (by decide)).2 (by omega)
    rwa [hds.chars, List.length_map] at hle
  have hlead : ¬(ds.length ≠ 1 ∧ ds.head? = some 0) := by
    rintro ⟨hne, hzero⟩
    rw [hds.lead hzero] at hne
    exact hne rfl
  unfold scanOctet
  rw [scanNumeral_append (fun _ => digit?_digitChar) hds (by omega) hrest]
  have hok : (3 < ds.length || (ds.length ≠ 1 && ds.head? == some 0)) = false := by
    simpa [hlength] using hlead
  simp only [Option.bind_eq_bind, Option.bind_some, hok]
  exact congrArg some (Prod.ext UInt8.ofNat_toNat rfl)

theorem toList_text_v4 (ip : Ipv4) : ip.text.toList =
    Nat.toDigits 10 ip.a.toNat ++ '.' :: (Nat.toDigits 10 ip.b.toNat ++ '.' ::
      (Nat.toDigits 10 ip.c.toNat ++ '.' :: Nat.toDigits 10 ip.d.toNat)) := by
  simp [Ipv4.text]

theorem scanIpv4_text (ip : Ipv4) {rest : List Char} (hrest : Stops digit? rest) :
    scanIpv4 (ip.text.toList ++ rest) = some (ip, rest) := by
  have hdot (cs : List Char) : Stops digit? ('.' :: cs) := stops_of_head (by decide)
  rw [toList_text_v4]
  simp only [List.append_assoc, List.cons_append]
  unfold scanIpv4
  simp only [scanOctet_append _ (hdot _), scanOctet_append ip.d hrest, Option.bind_eq_bind,
    Option.bind_some, scanChar, if_true]
  rfl

/-- There is no dotted address where no dot comes after the first digits. -/
theorem scanIpv4_eq_none {cs : List Char} (h : (spanDigits digit? cs).2.head? ≠ some '.') :
    scanIpv4 cs = none := by
  unfold scanIpv4 scanOctet scanNumeral
  generalize spanDigits digit? cs = out at h ⊢
  obtain ⟨ds, left⟩ := out
  have hdot : scanChar '.' left = none := by
    cases left with
    | nil => rfl
    | cons c left => exact if_neg fun hc => h (congrArg some hc)
  dsimp only
  split
  · rfl
  · simp only [Option.bind_eq_bind, Option.bind_some]
    split
    · rfl
    · simp only [Option.pure_def, Option.bind_some, hdot, Option.bind_none]

/-! ## Groups -/

/-- No group comes next: the text goes on with the end of the address or with the place
of zeros that are left out. -/
inductive Rests : List Char → Prop
  | bracket (cs : List Char) : Rests (']' :: cs)
  | percent (cs : List Char) : Rests ('%' :: cs)
  | gap (cs : List Char) : Rests (':' :: ':' :: cs)

/-- The text goes on with a sign. -/
def Punctuated (cs : List Char) : Prop := ∃ c ∈ [':', ']', '%'], cs.head? = some c

theorem Rests.punctuated {cs : List Char} (h : Rests cs) : Punctuated cs := by
  cases h with
  | bracket => exact ⟨']', by decide, rfl⟩
  | percent => exact ⟨'%', by decide, rfl⟩
  | gap => exact ⟨':', by decide, rfl⟩

theorem punctuated_colon (cs : List Char) : Punctuated (':' :: cs) := ⟨':', by decide, rfl⟩

theorem Punctuated.stops {digit : Char → Option Nat} {cs : List Char} (h : Punctuated cs)
    (hcolon : digit ':' = none) (hbracket : digit ']' = none) (hpercent : digit '%' = none) :
    Stops digit cs := by
  obtain ⟨c, hc, hhead⟩ := h
  intro d hd
  rw [hhead] at hd
  obtain rfl := Option.some.inj hd
  obtain rfl | rfl | rfl : c = ':' ∨ c = ']' ∨ c = '%' := by simpa using hc
  · exact hcolon
  · exact hbracket
  · exact hpercent

theorem Punctuated.stops_digit {cs : List Char} (h : Punctuated cs) : Stops digit? cs :=
  h.stops rfl rfl rfl

theorem Punctuated.stops_hexDigit {cs : List Char} (h : Punctuated cs) : Stops hexDigit? cs :=
  h.stops rfl rfl rfl

theorem Punctuated.head_ne {cs : List Char} (h : Punctuated cs) : cs.head? ≠ some '.' := by
  obtain ⟨c, hc, hhead⟩ := h
  rw [hhead]
  intro hdot
  obtain rfl := Option.some.inj hdot
  exact absurd hc (by decide)

/-- No dot comes after the decimal digits of a group. -/
theorem head_spanDigits_ne {ds : List Nat} {rest : List Char} (hlt : ∀ d ∈ ds, d < 16)
    (hrest : Punctuated rest) :
    (spanDigits digit? (ds.map Nat.digitChar ++ rest)).2.head? ≠ some '.' := by
  induction ds with
  | nil =>
    rw [List.map_nil, List.nil_append, spanDigits_of_stops hrest.stops_digit]
    exact hrest.head_ne
  | cons d ds ih =>
    obtain ⟨hd, hds⟩ := List.forall_mem_cons.1 hlt
    rw [List.map_cons, List.cons_append]
    unfold spanDigits
    cases hdigit : digit? d.digitChar with
    | none =>
      have hall : ∀ d : Fin 16, d.val.digitChar ≠ '.' := by decide
      exact fun hdot => hall ⟨d, hd⟩ (Option.some.inj hdot)
    | some => exact ih hds

theorem scanIpv4_group (g : UInt16) {rest : List Char} (hrest : Punctuated rest) :
    scanIpv4 (Nat.toDigits 16 g.toNat ++ rest) = none := by
  obtain ⟨ds, hds⟩ := exists_spelling (by decide : 1 < 16) g.toNat
  rw [hds.chars]
  exact scanIpv4_eq_none (head_spanDigits_ne hds.lt hrest)

theorem scanGroup_append (g : UInt16) {rest : List Char} (hrest : Punctuated rest) :
    scanGroup (Nat.toDigits 16 g.toNat ++ rest) = some (g, rest) := by
  obtain ⟨ds, hds⟩ := exists_spelling (by decide : 1 < 16) g.toNat
  have hlt : g.toNat < 65536 := g.toNat_lt
  have hlength : ds.length ≤ 4 := by
    have hle : (Nat.toDigits 16 g.toNat).length ≤ 4 :=
      (Nat.length_toDigits_le_iff (by decide) (by decide)).2 (by omega)
    rwa [hds.chars, List.length_map] at hle
  have hlimit : g.toNat ≤ UInt16.size - 1 := by
    show g.toNat ≤ 65535
    omega
  unfold scanGroup
  rw [scanNumeral_append (fun _ => hexDigit?_digitChar) hds hlimit hrest.stops_hexDigit]
  simp only [Option.bind_eq_bind, Option.bind_some, if_neg (Nat.not_lt.2 hlength)]
  exact congrArg some (Prod.ext UInt16.ofNat_toNat rfl)

/-- There is neither kind of group where the text does not go on with a digit. -/
theorem scan_eq_none {cs : List Char} (h : Punctuated cs) :
    scanIpv4 cs = none ∧ scanGroup cs = none := by
  constructor
  · apply scanIpv4_eq_none
    rw [spanDigits_of_stops h.stops_digit]
    exact h.head_ne
  · unfold scanGroup scanNumeral
    rw [spanDigits_of_stops h.stops_hexDigit]
    rfl

/-- Groups with a colon before each. -/
def colonGroups (gs : List UInt16) : List Char :=
  gs.flatMap fun g => ':' :: Nat.toDigits 16 g.toNat

theorem punctuated_colonGroups {gs : List UInt16} {rest : List Char} (hrest : Punctuated rest) :
    Punctuated (colonGroups gs ++ rest) := by
  cases gs with
  | nil => exact hrest
  | cons g gs => exact punctuated_colon _

/-- A group is taken off the front, and then the others. -/
theorem scanGroups_group {first : Bool} {room : Nat} {g : UInt16} {cs rest : List Char}
    (hstart : (if first then some ((), cs) else scanChar ':' cs) =
      some ((), Nat.toDigits 16 g.toNat ++ rest))
    (hrest : Punctuated rest) {gs : List UInt16} {dotted : Bool} {left : List Char}
    (hthen : scanGroups false room rest = ((gs, dotted), left)) :
    scanGroups first (room + 1) cs = ((g :: gs, dotted), left) := by
  unfold scanGroups
  simp only [hstart, Option.bind_some, scanIpv4_group g hrest, scanGroup_append g hrest, ite_self,
    hthen]

/-- The rest of an address after a group. -/
theorem scanGroups_colonGroups {gs : List UInt16} {room : Nat} {rest : List Char}
    (hroom : gs.length ≤ room) (hrest : Rests rest) :
    scanGroups false room (colonGroups gs ++ rest) = ((gs, false), rest) := by
  induction gs generalizing room with
  | nil =>
    cases room with
    | zero => rfl
    | succ room =>
      unfold scanGroups
      cases hrest with
      | bracket cs => simp [colonGroups, scanChar]
      | percent cs => simp [colonGroups, scanChar]
      | gap cs =>
        obtain ⟨hv4, hgroup⟩ := scan_eq_none (punctuated_colon cs)
        simp [colonGroups, scanChar, hv4, hgroup]
  | cons g gs ih =>
    obtain ⟨room, rfl⟩ : ∃ n, room = n + 1 := ⟨room - 1, by simp at hroom; omega⟩
    refine scanGroups_group ?_ (punctuated_colonGroups hrest.punctuated)
      (ih (Nat.le_of_succ_le_succ hroom))
    simp [colonGroups, scanChar]

theorem toList_groupsText (g : UInt16) (gs : List UInt16) :
    (groupsText (g :: gs)).toList = Nat.toDigits 16 g.toNat ++ colonGroups gs := by
  induction gs generalizing g with
  | nil => simp [groupsText, groupText, colonGroups]
  | cons h gs ih =>
    have hsplit : groupsText (g :: h :: gs) = groupText g ++ ":" ++ groupsText (h :: gs) := by
      simp only [groupsText, List.map_cons, String.intercalate_cons_cons]
    rw [hsplit, String.toList_append, String.toList_append, ih]
    simp [groupText, colonGroups]

theorem scanGroups_groupsText {gs : List UInt16} {room : Nat} {rest : List Char}
    (hroom : gs.length ≤ room) (hrest : Rests rest) :
    scanGroups true room ((groupsText gs).toList ++ rest) = ((gs, false), rest) := by
  cases gs with
  | nil =>
    obtain ⟨hv4, hgroup⟩ := scan_eq_none hrest.punctuated
    cases room with
    | zero => rfl
    | succ room => simp [groupsText, scanGroups, hv4, hgroup]
  | cons g gs =>
    obtain ⟨room, rfl⟩ : ∃ n, room = n + 1 := ⟨room - 1, by simp at hroom; omega⟩
    refine scanGroups_group ?_ (punctuated_colonGroups hrest.punctuated)
      (scanGroups_colonGroups (Nat.le_of_succ_le_succ hroom) hrest)
    rw [if_pos rfl, toList_groupsText, List.append_assoc]

/-! ## Zeros -/

/-- At each place stands a run of zeros of the length that is counted there. -/
theorem drop_eq_zeros (gs : List UInt16) (i : Nat) :
    gs.drop i = List.replicate ((zeroRuns gs).getD i 0) 0 ++
      gs.drop (i + (zeroRuns gs).getD i 0) := by
  induction gs generalizing i with
  | nil => simp [zeroRuns]
  | cons g gs ih =>
    cases i with
    | succ i =>
      show gs.drop i = List.replicate ((zeroRuns gs).getD i 0) 0 ++
        (g :: gs).drop (i + 1 + (zeroRuns gs).getD i 0)
      rw [Nat.add_right_comm, List.drop_succ_cons]
      exact ih i
    | zero =>
      have hthen := ih 0
      by_cases hg : g = 0
      · subst hg
        simpa [zeroRuns, List.replicate_succ, List.headD_eq_head?_getD,
          List.head?_eq_getElem?] using hthen
      · simp [zeroRuns, hg]

theorem foldl_max_mem (l : List Nat) (m : Nat) : l.foldl max m = m ∨ l.foldl max m ∈ l := by
  induction l generalizing m with
  | nil => exact .inl rfl
  | cons a l ih =>
    rw [List.foldl_cons]
    rcases ih (max m a) with h | h
    · rw [h]
      rcases Nat.le_total m a with hle | hle
      · rw [Nat.max_eq_right hle]
        exact .inr List.mem_cons_self
      · rw [Nat.max_eq_left hle]
        exact .inl rfl
    · exact .inr (List.mem_cons_of_mem a h)

/-- What is left out of a text between its groups is zeros. -/
theorem longestZeros_split {gs : List UInt16} (h : 0 < (longestZeros gs).2) :
    gs = gs.take (longestZeros gs).1 ++ List.replicate (longestZeros gs).2 0 ++
      gs.drop ((longestZeros gs).1 + (longestZeros gs).2) := by
  have hlongest : (longestZeros gs).2 ∈ zeroRuns gs :=
    (foldl_max_mem (zeroRuns gs) 0).resolve_left (Nat.ne_of_gt h)
  have hfound : (longestZeros gs).1 < (zeroRuns gs).length :=
    List.findIdx_lt_length_of_exists ⟨_, hlongest, beq_self_eq_true _⟩
  have hrun : (zeroRuns gs).getD (longestZeros gs).1 0 = (longestZeros gs).2 := by
    have hget := List.findIdx_getElem (w := hfound)
    rw [List.getD_eq_getElem?_getD, List.getElem?_eq_getElem hfound]
    exact eq_of_beq hget
  have hdrop := drop_eq_zeros gs (longestZeros gs).1
  rw [hrun] at hdrop
  rw [List.append_assoc, ← hdrop, List.take_append_drop]

/-- The groups that are written, with the zeros between them, are those of the address. -/
theorem ofParts_eq {ip : Ipv6} {head tail : List UInt16} {n : Nat}
    (h : ip.groups.toList = head ++ List.replicate n 0 ++ tail) : Ipv6.ofParts head tail = ip := by
  have hlength := congrArg List.length h
  have hn : 8 - head.length - tail.length = n := by
    simp at hlength
    omega
  cases ip with
  | mk groups =>
    refine congrArg Ipv6.mk (Vector.ext fun i hi => ?_)
    rw [Vector.getElem_ofFn, hn, ← h]
    simp [hi]

/-! ## Addresses -/

/-- The two groups at the end of an address that maps one of four octets. -/
theorem groups_of_mapped (g h : UInt16) :
    Ipv4.groups ⟨(g / 256).toUInt8, g.toUInt8, (h / 256).toUInt8, h.toUInt8⟩ = [g, h] := by
  have hjoin (g : UInt16) : (g / 256).toUInt8.toUInt16 * 256 + g.toUInt8.toUInt16 = g := by
    apply UInt16.toNat_inj.1
    have hlt : g.toNat < 65536 := g.toNat_lt
    simp
    omega
  rw [Ipv4.groups, hjoin, hjoin]

theorem of_mapped?_eq_some {ip : Ipv6} {v4 : Ipv4} (h : ip.mapped? = some v4) :
    ip.groups.toList = List.replicate 5 0 ++ 0xffff :: v4.groups := by
  unfold Ipv6.mapped? at h
  split at h
  · next heq =>
    rw [heq, ← Option.some.inj h, groups_of_mapped]
    rfl
  · cases h

/-- An address in which zeros are left out. -/
theorem scanIpv6_gap {ip : Ipv6} {head tail : List UInt16} {n : Nat} {dotted : Bool}
    {cs rest : List Char} (hip : ip.groups.toList = head ++ List.replicate n 0 ++ tail)
    (hhead : head.length < 8)
    (htail : scanGroups true (7 - head.length) cs = ((tail, dotted), rest)) :
    scanIpv6 ((groupsText head).toList ++ ':' :: ':' :: cs) = some (ip, rest) := by
  unfold scanIpv6
  rw [scanGroups_groupsText (Nat.le_of_lt hhead) (.gap cs)]
  simp [Nat.ne_of_lt hhead, scanChar, htail, ofParts_eq hip]

/-- An address that maps one of four octets. -/
theorem scanIpv6_mapped {ip : Ipv6} {v4 : Ipv4} (h : ip.mapped? = some v4) {rest : List Char}
    (hrest : Rests rest) :
    scanIpv6 ("::ffff:".toList ++ (v4.text.toList ++ rest)) = some (ip, rest) := by
  have hdotted : scanGroups false 6 (':' :: (v4.text.toList ++ rest)) =
      ((v4.groups, true), rest) := by
    unfold scanGroups
    simp [scanChar, scanIpv4_text v4 hrest.punctuated.stops_digit]
  have htail : scanGroups true 7
      (Nat.toDigits 16 (0xffff : UInt16).toNat ++ ':' :: (v4.text.toList ++ rest)) =
        ((0xffff :: v4.groups, true), rest) :=
    scanGroups_group (if_pos rfl) (punctuated_colon _) hdotted
  have hip : ip.groups.toList = [] ++ List.replicate 5 0 ++ 0xffff :: v4.groups :=
    of_mapped?_eq_some h
  have hffff : "::ffff:".toList = (groupsText []).toList ++ ':' :: ':' ::
      (Nat.toDigits 16 (0xffff : UInt16).toNat ++ [':']) := by
    decide
  have hgap := scanIpv6_gap hip (by decide) htail
  rw [hffff]
  simpa using hgap

theorem scanIpv6_text (ip : Ipv6) {rest : List Char} (hrest : Rests rest) :
    scanIpv6 (ip.text.toList ++ rest) = some (ip, rest) := by
  unfold Ipv6.text
  split
  · next v4 h =>
    rw [String.toList_append, List.append_assoc]
    exact scanIpv6_mapped h hrest
  · dsimp only
    generalize hgs : ip.groups.toList = gs
    have hlength : gs.length = 8 := by simp [← hgs]
    split
    · have hparts : Ipv6.ofParts gs [] = ip := ofParts_eq (n := 0) (by simp [hgs])
      unfold scanIpv6
      rw [scanGroups_groupsText (Nat.le_of_eq hlength) hrest]
      simp [hlength, hparts]
    · next hlong =>
      have hsplit := longestZeros_split (by omega : 0 < (longestZeros gs).2)
      have hsum := congrArg List.length hsplit
      simp only [List.length_append, List.length_replicate, hlength] at hsum
      have hroom : (gs.drop ((longestZeros gs).1 + (longestZeros gs).2)).length ≤
          7 - (gs.take (longestZeros gs).1).length := by omega
      have htail := scanGroups_groupsText hroom hrest
      have hgap := scanIpv6_gap (hgs.trans hsplit) (by omega) htail
      rw [String.toList_append, String.toList_append, List.append_assoc, List.append_assoc]
      exact hgap

/-! ## Ports and zones -/

theorem scanPort_append (port : UInt16) :
    scanPort (':' :: Nat.toDigits 10 port.toNat) = some (port, []) := by
  have hlimit : port.toNat ≤ UInt16.size - 1 := Nat.le_pred_of_lt port.toNat_lt
  have hscan := scanDecimal_append hlimit (stops_nil : Stops digit? [])
  rw [List.append_nil] at hscan
  unfold scanPort
  simp only [scanChar, if_true, Option.bind_eq_bind, Option.bind_some, hscan, Option.pure_def,
    UInt16.ofNat_toNat]

/-- The text of a zone. -/
def zoneText (zone : UInt32) : String := if zone = 0 then "" else "%" ++ Nat.repr zone.toNat

theorem rests_zoneText (zone : UInt32) (cs : List Char) :
    Rests ((zoneText zone).toList ++ ']' :: cs) := by
  unfold zoneText
  split
  · exact .bracket cs
  · rw [String.toList_append, List.append_assoc]
    exact .percent _

theorem scanZone_zoneText (zone : UInt32) (cs : List Char) :
    scanZone ((zoneText zone).toList ++ ']' :: cs) = (zone, ']' :: cs) := by
  have hlimit : zone.toNat ≤ UInt32.size - 1 := Nat.le_pred_of_lt zone.toNat_lt
  have hbracket : Stops digit? (']' :: cs) := stops_of_head (by decide)
  have hscan := scanDecimal_append hlimit hbracket
  unfold zoneText
  split
  · next hzero =>
    rw [hzero]
    rfl
  · have htext : ("%" ++ Nat.repr zone.toNat).toList = '%' :: Nat.toDigits 10 zone.toNat := by simp
    unfold scanZone
    simp only [htext, List.cons_append, scanChar, if_true, Option.bind_some, hscan,
      UInt32.ofNat_toNat]

/-- The text of an address is read as the address. -/
theorem parse?_text (a : Address) : Address.parse? a.text = some a := by
  cases a with
  | v4 ip port =>
    have hcolon : Stops digit? (':' :: Nat.toDigits 10 port.toNat) := stops_of_head (by decide)
    have hip := scanIpv4_text ip hcolon
    have htext : (Address.v4 ip port).text.toList =
        ip.text.toList ++ ':' :: Nat.toDigits 10 port.toNat := by
      simp [Address.text]
    unfold Address.parse? scanV4
    simp [htext, hip, scanPort_append]
  | v6 ip zone port =>
    have htext : (Address.v6 ip zone port).text.toList = '[' :: (ip.text.toList ++
        ((zoneText zone).toList ++ ']' :: ':' :: Nat.toDigits 10 port.toNat)) := by
      simp [Address.text, zoneText]
    have hv4 : scanV4 (Address.v6 ip zone port).text.toList = none := by
      rw [htext, scanV4, scanIpv4_eq_none]
      · rfl
      · rw [spanDigits_of_stops (stops_of_head (by decide))]
        show some '[' ≠ some '.'
        decide
    have hip := scanIpv6_text ip (rests_zoneText zone (':' :: Nat.toDigits 10 port.toNat))
    unfold Address.parse?
    rw [hv4]
    unfold scanV6
    simp [htext, hip, scanChar, scanZone_zoneText, scanPort_append]

end ControlPlane.Net
