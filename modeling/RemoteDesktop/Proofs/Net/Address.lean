import RemoteDesktop.Net.SocketAddress
import Mathlib.Data.List.TakeWhile

/-!
# IPv6 addresses are read back

Each form that an address is written in is read back to the same groups: with an IPv4 address at its end, with
its longest zeros as two colons, and in full (`Ipv6.read?_write`). What could go wrong is that a reader tries an
IPv4 address in front of every group: the digits of a group may be decimal, but no point follows them, so there
is none (`Ipv4.read?_group`).

Main statement: `SocketAddress.ofText?_write`.
-/

namespace RemoteDesktop

/-! ### Runs of digits -/

/-- What is left behind the elements that are taken. -/
theorem drop_length_takeWhile {α : Type} (p : α → Bool) (l : List α) :
    l.drop (l.takeWhile p).length = l.dropWhile p := by
  have h := congrArg (List.drop (l.takeWhile p).length) (List.takeWhile_append_dropWhile (p := p) (l := l))
  rw [List.drop_left] at h
  exact h.symm

namespace Text.Numeral

variable {rest : List Char}

/-- A decimal digit is a hexadecimal one. -/
theorem isDigit_hex_of_decimal {c : Char} (h : isDigit 10 c = true) : isDigit 16 c = true := by
  simp only [isDigit, digitValue?, Option.isSome_filter, Option.any_eq_true, decide_eq_true_eq] at h ⊢
  obtain ⟨n, hn, hlt⟩ := h
  exact ⟨n, hn, by omega⟩

theorem run_decimal_of_hex (h : run 16 rest = []) : run 10 rest = [] := by
  cases rest with
  | nil => rfl
  | cons c rest =>
    have hhex : ¬ isDigit 16 c = true := fun hc => by simp [run, hc] at h
    rw [run, List.takeWhile_cons_of_neg fun hc => hhex (isDigit_hex_of_decimal hc)]

/-- Without a digit there is no number. -/
theorem Rule.read?_of_run {rule : Rule} (h : run rule.base rest = []) : rule.read? rest = none := by
  simp [read?, allows, h]

end Text.Numeral

namespace Net

open Text (joinWith)
open Text.Numeral (isDigit run isDigit_hex_of_decimal run_decimal_of_hex)

/-! ### What follows a group -/

/-- What follows a group does not continue it: no digit and no point comes next. -/
def Bounded (rest : List Char) : Prop := ∀ c, rest.head? = some c → isDigit 16 c = false ∧ c ≠ '.'

theorem bounded_colon (rest : List Char) : Bounded (':' :: rest) := by
  intro c h
  obtain rfl := Option.some_inj.1 h
  decide

variable {rest : List Char}

theorem Bounded.run_hex (h : Bounded rest) : run 16 rest = [] := by
  cases rest with
  | nil => rfl
  | cons c rest => simp [run, (h c rfl).1]

/-- Without a digit there is no group. -/
theorem readGroup?_of_run (h : run 16 rest = []) : readGroup? rest = none := by
  rw [readGroup?, Text.Numeral.Rule.read?_of_run h]
  rfl

/-- Without a digit there is no IPv4 address. -/
theorem Ipv4.read?_of_run (h : run 10 rest = []) : Ipv4.read? rest = none := by
  rw [Ipv4.read?, readOctet?, Text.Numeral.Rule.read?_of_run h]
  rfl

/-- An IPv4 address begins with decimal digits and a point. -/
theorem Ipv4.digits_point_of_read? {text : List Char} (h : Ipv4.read? text ≠ none) :
    ∃ digits after, text = digits ++ '.' :: after ∧ ∀ c ∈ digits, isDigit 10 c = true := by
  obtain ⟨⟨a, behind⟩, hoctet⟩ : ∃ cut, readOctet? text = some cut := by
    rw [← Option.isSome_iff_exists, Option.isSome_iff_ne_none]
    intro hnone
    rw [Ipv4.read?, hnone] at h
    exact h rfl
  obtain ⟨after, hpoint⟩ : ∃ after, expect? '.' behind = some after := by
    rw [← Option.isSome_iff_exists, Option.isSome_iff_ne_none]
    intro hnone
    simp [Ipv4.read?, hoctet, hnone] at h
  have hbehind : behind = '.' :: after := by
    cases behind with
    | nil => cases hpoint
    | cons c behind =>
      rw [expect?] at hpoint
      split at hpoint
      next hc =>
        cases hpoint
        rw [hc]
      next => cases hpoint
  have hdrop : behind = text.dropWhile (isDigit 10) := by
    simp only [readOctet?, Text.Numeral.Rule.read?, Option.map_eq_some_iff] at hoctet
    obtain ⟨⟨n, left⟩, hread, hcut⟩ := hoctet
    obtain ⟨-, rfl⟩ := Prod.mk.inj hcut
    split at hread
    next =>
      obtain ⟨-, rfl⟩ := Prod.mk.inj (Option.some.inj hread)
      exact drop_length_takeWhile _ _
    next => cases hread
  refine ⟨text.takeWhile (isDigit 10), after, ?_, fun c hc => List.mem_takeWhile_imp hc⟩
  rw [← hbehind, hdrop, List.takeWhile_append_dropWhile]

/-- Where no point follows a group, the group does not begin an IPv4 address. -/
theorem Ipv4.read?_group (group : UInt16) (h : Bounded rest) :
    Ipv4.read? (Text.Numeral.write 16 group.toNat ++ rest) = none := by
  by_contra hread
  obtain ⟨digits, after, htext, hdigits⟩ := Ipv4.digits_point_of_read? hread
  have hhex : ∀ c ∈ Text.Numeral.write 16 group.toNat, isDigit 16 c = true :=
    Text.Numeral.isDigit_of_mem_write (by decide) (by decide)
  rcases List.append_eq_append_iff.1 htext with ⟨between, hbetween, hrest⟩ | ⟨between, hbetween, hrest⟩
  · -- the point lies behind the group
    cases between with
    | nil => exact (h '.' (by rw [hrest]; rfl)).2 rfl
    | cons c between =>
      have hc : isDigit 10 c = true := hdigits c (by rw [hbetween]; simp)
      have hend : isDigit 16 c = false := (h c (by rw [hrest]; rfl)).1
      rw [isDigit_hex_of_decimal hc] at hend
      cases hend
  · -- the point would be one of the group's digits, or come right behind them
    cases between with
    | nil => exact (h '.' (by rw [← List.nil_append rest, ← hrest]; rfl)).2 rfl
    | cons c between =>
      obtain ⟨rfl, -⟩ := List.cons.inj hrest
      exact absurd (hhex '.' (by rw [hbetween]; simp)) (by decide)

/-! ### Series of groups -/

namespace Ipv6

/-- A series ends where no group begins. -/
theorem readSeries_stop {isFirst : Bool} (h : ∀ start, nextGroup? isFirst rest = some start → run 16 start = [])
    (limit : Nat) : readSeries isFirst limit rest = ⟨[], false, rest⟩ := by
  cases limit with
  | zero => rfl
  | succ limit =>
    rw [readSeries]
    cases hnext : nextGroup? isFirst rest with
    | none => rfl
    | some start =>
      have hnone := Ipv4.read?_of_run (run_decimal_of_hex (h start hnext))
      simp only [hnone, ite_self, readGroup?_of_run (h start hnext)]

/-- A group is read, and then what follows it. -/
theorem readSeries_group {isFirst : Bool} {text : List Char} {group : UInt16} (limit : Nat)
    (hnext : nextGroup? isFirst text = some (Text.Numeral.write 16 group.toNat ++ rest)) (h : Bounded rest) :
    readSeries isFirst (limit + 1) text =
      { readSeries false limit rest with groups := group :: (readSeries false limit rest).groups } := by
  rw [readSeries, hnext]
  simp only [Ipv4.read?_group group h, ite_self, readGroup?_write group h.run_hex]

/-- Groups with a colon before each of them. -/
def writeTail (groups : List UInt16) : List Char := groups.flatMap fun g => ':' :: Text.Numeral.write 16 g.toNat

theorem writeGroups_cons (group : UInt16) (groups : List UInt16) :
    writeGroups (group :: groups) = Text.Numeral.write 16 group.toNat ++ writeTail groups := by
  induction groups generalizing group with
  | nil => simp [writeGroups, joinWith, writeTail]
  | cons next groups ih =>
    have hjoin : writeGroups (group :: next :: groups) =
        Text.Numeral.write 16 group.toNat ++ ':' :: writeGroups (next :: groups) := rfl
    rw [hjoin, ih]
    rfl

theorem bounded_writeTail (groups : List UInt16) (h : Bounded rest) : Bounded (writeTail groups ++ rest) := by
  cases groups with
  | nil => exact h
  | cons g groups => exact bounded_colon _

theorem readSeries_writeTail {groups : List UInt16} {limit : Nat} (hlimit : groups.length ≤ limit) (h : Bounded rest)
    (hstop : ∀ limit, readSeries false limit rest = ⟨[], false, rest⟩) :
    readSeries false limit (writeTail groups ++ rest) = ⟨groups, false, rest⟩ := by
  induction groups generalizing limit with
  | nil => exact hstop limit
  | cons group groups ih =>
    obtain ⟨limit, rfl⟩ := Nat.exists_eq_succ_of_ne_zero (Nat.ne_of_gt (Nat.zero_lt_of_lt hlimit))
    have hnext : nextGroup? false (writeTail (group :: groups) ++ rest) =
        some (Text.Numeral.write 16 group.toNat ++ (writeTail groups ++ rest)) := by
      rw [writeTail, List.flatMap_cons, ← writeTail, List.append_assoc]
      exact expect?_cons ':' _
    rw [readSeries_group limit hnext (bounded_writeTail groups h), ih (Nat.le_of_succ_le_succ hlimit)]

/-- Groups with colons between them are read back. -/
theorem readSeries_writeGroups {groups : List UInt16} {limit : Nat} (hlimit : groups.length ≤ limit) (h : Bounded rest)
    (hstop : ∀ limit, readSeries false limit rest = ⟨[], false, rest⟩) :
    readSeries true limit (writeGroups groups ++ rest) = ⟨groups, false, rest⟩ := by
  cases groups with
  | nil =>
    refine readSeries_stop (fun start hstart => ?_) limit
    obtain rfl : rest = start := Option.some_inj.1 hstart
    exact h.run_hex
  | cons group groups =>
    obtain ⟨limit, rfl⟩ := Nat.exists_eq_succ_of_ne_zero (Nat.ne_of_gt (Nat.zero_lt_of_lt hlimit))
    have hnext : nextGroup? true (writeGroups (group :: groups) ++ rest) =
        some (Text.Numeral.write 16 group.toNat ++ (writeTail groups ++ rest)) := by
      rw [writeGroups_cons, List.append_assoc]
      rfl
    rw [readSeries_group limit hnext (bounded_writeTail groups h),
      readSeries_writeTail (Nat.le_of_succ_le_succ hlimit) h hstop]

/-! ### The longest zeros -/

/-- From `start` on there are `length` groups of zero. -/
def HasZeros (groups : List UInt16) (run : Nat × Nat) : Prop :=
  groups.take run.1 ++ (List.replicate run.2 0 ++ groups.drop (run.1 + run.2)) = groups

theorem hasZeros_zerosFrom (groups : List UInt16) (start : Nat) : HasZeros groups (start, zerosFrom groups start) := by
  have hzeros : (groups.drop start).takeWhile (· == 0) = List.replicate (zerosFrom groups start) 0 :=
    List.eq_replicate_of_mem fun g hg => by simpa using List.mem_takeWhile_imp hg
  have hbehind : groups.drop (start + zerosFrom groups start) = (groups.drop start).dropWhile (· == 0) := by
    rw [← List.drop_drop, zerosFrom, drop_length_takeWhile]
  rw [HasZeros]
  simp only
  rw [hbehind, ← hzeros, List.takeWhile_append_dropWhile, List.take_append_drop]

theorem hasZeros_longestZeros (groups : List UInt16) : HasZeros groups (longestZeros groups) := by
  rw [longestZeros]
  refine List.foldlRecOn _ _ ?_ fun best hbest start _ => ?_
  · simp [HasZeros]
  · split
    · exact hasZeros_zerosFrom groups start
    · exact hbest

/-! ### Whole addresses -/

/-- What follows an address does not continue it. -/
def Closed (rest : List Char) : Prop := ∀ c, rest.head? = some c → isDigit 16 c = false ∧ c ≠ '.' ∧ c ≠ ':'

theorem Closed.bounded (h : Closed rest) : Bounded rest := fun c hc => ⟨(h c hc).1, (h c hc).2.1⟩

theorem Closed.stop (h : Closed rest) (limit : Nat) : readSeries false limit rest = ⟨[], false, rest⟩ := by
  refine readSeries_stop (fun start hstart => ?_) limit
  cases rest with
  | nil => cases hstart
  | cons c rest =>
    rw [nextGroup?, if_neg (by decide), expect?, if_neg (h c rfl).2.2] at hstart
    cases hstart

/-- No group begins at two colons. -/
theorem readSeries_colons (isFirst : Bool) (limit : Nat) (more : List Char) :
    readSeries isFirst limit (':' :: ':' :: more) = ⟨[], false, ':' :: ':' :: more⟩ := by
  refine readSeries_stop (fun start hstart => ?_) limit
  cases isFirst
  case false =>
    obtain rfl := Option.some_inj.1 ((expect?_cons ':' (':' :: more)).symm.trans hstart)
    exact (bounded_colon more).run_hex
  case true =>
    obtain rfl := Option.some_inj.1 hstart
    exact (bounded_colon (':' :: more)).run_hex

/-- An address with two colons is read from the groups on both sides. -/
theorem read?_colons {front back : List UInt16} (hlength : front.length + back.length < 8) {text : List Char}
    {endsInIpv4 : Bool} (hback : readSeries true (8 - (front.length + 1)) text = ⟨back, endsInIpv4, rest⟩) :
    read? (writeGroups front ++ (':' :: ':' :: text)) = some (ofEnds front back (Nat.le_of_lt hlength), rest) := by
  have hfront := readSeries_writeGroups (show front.length ≤ 8 by omega) (bounded_colon (':' :: text))
    (fun limit => readSeries_colons false limit text)
  have hfull : ¬ front.length = 8 := by omega
  simp only [read?, hfront, hfull, dif_neg, not_false_eq_true, Bool.false_eq_true, if_false, expect?_cons,
    Option.bind_eq_bind, Option.bind_some, hback]

/-- The longest zeros stand between the groups in front of them and those behind. -/
theorem groups_eq_longestZeros {ip : Ipv6} {start length : Nat} (h : longestZeros ip.groups = (start, length))
    (hpos : 0 < length) :
    (ip.groups.take start).length = start ∧ (ip.groups.drop (start + length)).length = 8 - start - length ∧
      start + length ≤ 8 ∧
      ip.groups = ip.groups.take start ++ List.replicate length 0 ++ ip.groups.drop (start + length) := by
  have hzeros : ip.groups.take start ++ (List.replicate length 0 ++ ip.groups.drop (start + length)) = ip.groups := by
    have hlongest := hasZeros_longestZeros ip.groups
    rwa [h] at hlongest
  have hlength := congrArg List.length hzeros
  simp only [List.length_append, List.length_take, List.length_replicate, List.length_drop, ip.length_groups]
    at hlength
  refine ⟨?_, ?_, by omega, by rw [List.append_assoc, hzeros]⟩
  · rw [List.length_take, ip.length_groups]
    omega
  · rw [List.length_drop, ip.length_groups]
    omega

theorem ofEnds_eq {ip : Ipv6} {front back : List UInt16} (h : front.length + back.length ≤ 8) {length : Nat}
    (hgroups : ip.groups = front ++ List.replicate length 0 ++ back) : ofEnds front back h = ip := by
  have hlength := congrArg List.length hgroups
  rw [List.length_append, List.length_append, List.length_replicate, ip.length_groups] at hlength
  obtain ⟨groups, hcount⟩ := ip
  simp only [ofEnds, mk.injEq]
  rw [show 8 - front.length - back.length = length by omega]
  exact hgroups.symm

theorem groups_ofGroups (high low : UInt16) : (Ipv4.ofGroups high low).groups = [high, low] := by
  have hhigh := high.toNat_lt
  have hlow := low.toNat_lt
  have hgroup (g : UInt16) (hg : g.toNat < 0x1_0000) :
      UInt16.ofNat (256 * (UInt8.ofNat (g.toNat / 256)).toNat + (UInt8.ofNat (g.toNat % 256)).toNat) = g := by
    rw [UInt8.toNat_ofNat_of_lt' (show g.toNat / 256 < 256 by omega),
      UInt8.toNat_ofNat_of_lt' (show g.toNat % 256 < 256 by omega), Nat.div_add_mod, UInt16.ofNat_toNat]
  simp only [Ipv4.groups, Ipv4.ofGroups, hgroup high hhigh, hgroup low hlow]

theorem groups_of_ipv4? {ip : Ipv6} {v4 : Ipv4} (h : ip.ipv4? = some v4) :
    ip.groups = [] ++ List.replicate 5 0 ++ (0xffff :: v4.groups) := by
  rw [ipv4?] at h
  split at h
  next high low hgroups =>
    rw [hgroups, ← Option.some_inj.1 h, groups_ofGroups]
    rfl
  next => cases h

/-- The end of an address that holds an IPv4 address. -/
theorem readSeries_mapped (v4 : Ipv4) (hdecimal : run 10 rest = []) :
    readSeries true 7 ("ffff:".toList ++ (v4.write ++ rest)) = ⟨0xffff :: v4.groups, true, rest⟩ := by
  have hwrite : Text.Numeral.write 16 (0xffff : UInt16).toNat = "ffff".toList := by
    rw [show (0xffff : UInt16).toNat = 0xffff from rfl]
    simp [Text.Numeral.write, Text.Numeral.digit, Bytes.hexDigit]
  have hnext : nextGroup? true ("ffff:".toList ++ (v4.write ++ rest)) =
      some (Text.Numeral.write 16 (0xffff : UInt16).toNat ++ ':' :: (v4.write ++ rest)) := by
    rw [hwrite]
    rfl
  have hv4 : readSeries false 6 (':' :: (v4.write ++ rest)) = ⟨v4.groups, true, rest⟩ := by
    rw [readSeries]
    simp only [nextGroup?, Bool.false_eq_true, if_false, expect?_cons, show 1 ≤ 5 by decide, if_true,
      Ipv4.read?_write v4 hdecimal]
  rw [readSeries_group 6 hnext (bounded_colon _), hv4]

/-- **An address is read back**, and what follows is left if it does not continue the address. -/
theorem read?_write (ip : Ipv6) (h : Closed rest) : read? (ip.write ++ rest) = some (ip, rest) := by
  rw [write]
  split
  next v4 hv4 =>
    have hdecimal := run_decimal_of_hex h.bounded.run_hex
    have hgroups := groups_of_ipv4? hv4
    have hlength : ([] : List UInt16).length + (0xffff :: v4.groups).length < 8 := by simp [Ipv4.groups]
    have htext : "::ffff:".toList ++ v4.write ++ rest =
        writeGroups [] ++ (':' :: ':' :: ("ffff:".toList ++ (v4.write ++ rest))) := by
      simp [writeGroups, joinWith]
    rw [htext, read?_colons hlength (readSeries_mapped v4 hdecimal), ofEnds_eq (Nat.le_of_lt hlength) hgroups]
  next =>
    cases hzeros : longestZeros ip.groups with
    | mk start length =>
      simp only
      split
      next hlong =>
        obtain ⟨hfront, hback, hfits, hgroups⟩ := groups_eq_longestZeros hzeros (by omega)
        have hlength : (ip.groups.take start).length + (ip.groups.drop (start + length)).length < 8 := by omega
        have hread := readSeries_writeGroups
          (show (ip.groups.drop (start + length)).length ≤ 8 - ((ip.groups.take start).length + 1) by omega)
          h.bounded h.stop
        have htext : writeGroups (ip.groups.take start) ++ "::".toList ++
            writeGroups (ip.groups.drop (start + length)) ++ rest =
              writeGroups (ip.groups.take start) ++
                (':' :: ':' :: (writeGroups (ip.groups.drop (start + length)) ++ rest)) := by
          simp
        rw [htext, read?_colons hlength hread, ofEnds_eq (Nat.le_of_lt hlength) hgroups]
      next =>
        have hread := readSeries_writeGroups (Nat.le_of_eq ip.length_groups) h.bounded h.stop
        simp only [read?, hread, ip.length_groups, dif_pos]

end Ipv6

/-! ### Socket addresses -/

namespace SocketAddress

theorem portRule_fits : portRule.Fits := ⟨by decide, by decide, fun k hk => by cases hk⟩

theorem scopeRule_fits : scopeRule.Fits := ⟨by decide, by decide, fun k hk => by cases hk⟩

theorem readPort?_write (port : UInt16) : readPort? (':' :: Text.Numeral.write 10 port.toNat) = some (port, []) := by
  have hnumber : portRule.read? (Text.Numeral.write 10 port.toNat ++ []) = some (port.toNat, []) :=
    Text.Numeral.Rule.read?_write portRule_fits port.toNat_lt List.takeWhile_nil
  rw [List.append_nil] at hnumber
  simp only [readPort?, expect?_cons, hnumber, Option.bind_eq_bind, Option.bind_some, UInt16.ofNat_toNat]

/-- The text of a scope: none if it is zero. -/
def scopeText (scope : UInt32) : List Char := if scope = 0 then [] else '%' :: Text.Numeral.write 10 scope.toNat

theorem closed_scopeText (scope : UInt32) (more : List Char) : Ipv6.Closed (scopeText scope ++ ']' :: more) := by
  intro c hc
  rw [scopeText] at hc
  split at hc
  next =>
    obtain rfl := Option.some_inj.1 hc
    decide
  next =>
    obtain rfl := Option.some_inj.1 hc
    decide

theorem readScope_scopeText (scope : UInt32) (more : List Char) :
    readScope (scopeText scope ++ ']' :: more) = (scope, ']' :: more) := by
  rw [scopeText]
  split
  next h =>
    rw [h]
    rfl
  next =>
    have hbracket : run 10 (']' :: more) = [] := rfl
    have hnumber : scopeRule.read? (Text.Numeral.write 10 scope.toNat ++ ']' :: more) =
        some (scope.toNat, ']' :: more) :=
      Text.Numeral.Rule.read?_write scopeRule_fits scope.toNat_lt hbracket
    simp only [readScope, List.cons_append, expect?_cons, Option.bind_some, hnumber, UInt32.ofNat_toNat]

/-- No IPv4 address begins with a bracket. -/
theorem readV4?_bracket (text : List Char) : readV4? ('[' :: text) = none := by
  rw [readV4?, Ipv4.read?_of_run rfl]
  rfl

/-- **A written address is read back**, port and scope included. -/
theorem ofText?_write (address : SocketAddress) : ofText? address.write = some address := by
  cases address with
  | v4 ip port => exact ofText?_write_v4 ip port
  | v6 ip scope port =>
    have htext : (v6 ip scope port).write =
        '[' :: (ip.write ++ (scopeText scope ++ ']' :: ':' :: Text.Numeral.write 10 port.toNat)) := by
      simp [write, scopeText]
    simp only [htext, ofText?, readV4?_bracket, readV6?, expect?_cons, ip.read?_write (closed_scopeText scope _),
      readScope_scopeText, readPort?_write, Option.bind_eq_bind, Option.bind_some, Option.none_or]

end SocketAddress

end Net

end RemoteDesktop
