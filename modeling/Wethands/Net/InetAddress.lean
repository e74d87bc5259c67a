import Wethands.Foundation.Regex.Greedy
import Wethands.Net.Http.HttpRequest

/-!
# Addresses as texts

The text of an address is followed by a number in the names of connections.
The number can be read off the end of such a name.
-/

namespace Wethands
namespace Net

open Foundation

/-- `std::to_string` of a number that is not negative. -/
def Decimal (n : Nat) : List Byte :=
  (Nat.toDigits 10 n).map (fun c => UInt8.ofNat c.toNat)

/-- `std::to_string` of an `int`. -/
def ToDecimal (n : Int) : List Byte :=
  if n < 0 then Ascii "-" ++ Decimal n.natAbs else Decimal n.natAbs

/-- `struct sockaddr_in`, with the bytes of both fields in network order. -/
structure InetAddress where
  sin_addr : Byte × Byte × Byte × Byte
  sin_port : Byte × Byte
deriving DecidableEq

namespace InetAddress

def InetNtop : Byte × Byte × Byte × Byte -> List Byte
  | (a, b, c, d) =>
      Decimal a.toNat ++ Ascii "." ++ Decimal b.toNat ++ Ascii "." ++
        Decimal c.toNat ++ Ascii "." ++ Decimal d.toNat

def PortInHostEndian (addr : InetAddress) : Nat :=
  256 * addr.sin_port.1.toNat + addr.sin_port.2.toNat

/-- The longest text has 21 characters and fits into the 32 of the buffer. -/
def ToString (addr : InetAddress) (printPort : Bool) : List Byte :=
  if printPort then
    InetNtop addr.sin_addr ++ Ascii ":" ++ Decimal addr.PortInHostEndian
  else InetNtop addr.sin_addr

end InetAddress

/-!
# Numbers at the end of a text
-/

theorem mem_toDigits_lt {n : Nat} {c : Char} (h : c ∈ Nat.toDigits 10 n) :
    48 ≤ c.toNat ∧ c.toNat ≤ 57 := by
  have hdigit := Nat.isDigit_of_mem_toDigits (by decide) (le_refl 10) h
  rw [Char.isDigit, Bool.and_eq_true, decide_eq_true_iff,
    decide_eq_true_iff] at hdigit
  exact ⟨UInt32.le_iff_toNat_le.mp hdigit.1,
    UInt32.le_iff_toNat_le.mp hdigit.2⟩

theorem decimal_injective {m n : Nat} (h : Decimal m = Decimal n) : m = n := by
  have hback (k : Nat) :
      (Decimal k).map (fun b => Char.ofNat b.toNat) = Nat.toDigits 10 k := by
    rw [Decimal, List.map_map, List.map_congr_left (g := id), List.map_id]
    intro c hc
    have hlt := (mem_toDigits_lt hc).2
    show Char.ofNat (UInt8.ofNat c.toNat).toNat = c
    rw [UInt8.toNat_ofNat_of_lt' (Nat.lt_of_le_of_lt hlt (by decide)),
      Char.ofNat_toNat]
  have hdigits : Nat.toDigits 10 m = Nat.toDigits 10 n := by
    rw [← hback, h, hback]
  have hnumbers := congrArg (fun ds => Nat.ofDigitChars 10 ds 0) hdigits
  simpa using hnumbers

theorem mem_decimal {n : Nat} {b : Byte} (h : b ∈ Decimal n) :
    48 ≤ b.toNat ∧ b.toNat ≤ 57 := by
  rcases List.mem_map.mp h with ⟨c, hc, rfl⟩
  have hrange := mem_toDigits_lt hc
  rwa [UInt8.toNat_ofNat_of_lt' (Nat.lt_of_le_of_lt hrange.2 (by decide))]

theorem hash_not_mem_decimal (n : Nat) : 35 ∉ Decimal n := by
  intro h
  have hrange := mem_decimal h
  have hthirty : (35 : UInt8).toNat = 35 := rfl
  omega

theorem decimal_of_same_text {first second : List Byte} {m n : Nat}
    (h : first ++ 35 :: Decimal m = second ++ 35 :: Decimal n) : m = n := by
  have hrun (k : Nat) (b : Byte) (hb : b ∈ (Decimal k).reverse) :
      (b != 35) = true := by
    rw [bne_iff_ne]
    rintro rfl
    exact hash_not_mem_decimal k (List.mem_reverse.mp hb)
  have hstops (text : List Byte) :
      Stops (fun b : Byte => b != 35) (35 :: text) := by
    intro b hb
    cases hb
    rfl
  have hreverse := congrArg List.reverse h
  simp only [List.reverse_append, List.reverse_cons, List.append_assoc,
    List.singleton_append] at hreverse
  have hsame := (run_unique (hrun m) (hstops _) (hrun n) (hstops _)
    hreverse).1
  exact decimal_injective (List.reverse_inj.mp hsame)

end Net
end Wethands
