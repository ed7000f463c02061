import MeteredDownload.Text.Runs

/-!
# Directions of writing

Letters are written from left to right or from right to left; digits, signs and marks go along with what
is around them.  The table is that of Unicode 15.
-/
set_option autoImplicit false
namespace MeteredDownload.Text

inductive Direction where
  | leftToRight
  | rightToLeft
  /-- Right to left, with digits of its own. -/
  | arabicLetter
  | arabicDigit
  | europeanDigit
  | sign
  | separator
  | terminator
  | other
  | boundary
  | mark
  | space
  deriving DecidableEq, Repr

namespace Direction

/-- The directions by runs; a letter for each, as `ofMark?` reads them. -/
def text : String :=
  "b9 w5 bE w5 o2 t3 o5 s c s c2 eA c o6 l1A o6 l1A o4 b6 w b1A c o t4 o4 l o2 b o2 t2 e2 o l o3
   e l o5 l17 o l1F o l1C1 o2 l7 oE l2 oE l5 o9 l o11 m70 l4 o2 l8 o l5 o2 l o l6E o l8C m7 l100
   o5 t2 m2D r m r m2 r m2 r m9 r30 n6 o2 a t2 a c a o2 mB a30 m15 nA t n2 a3 m a65 m7 n o m6 a2
   m2 o m4 a2 eA a17 m a1E m1D a59 mB aF r2B m9 r2 o4 r3 m r18 m4 r m9 r m3 r m7 r29 m5 r2 a30
   n8 m8 a2A m18 n m20 l37 m l m l4 m8 l4 m l3 m7 lA m2 l1D m l3A m l4 m6 l6 m l14 m4 lC t2 l7 t
   l2 m5 l39 m2 l3 m18 l17 m2 l3 m lB m2 l39 m l4 m8 l4 m3 l12 m4 lB t8 l m8 l3A m l2 m l m6 l6
   mA lB m4 l1C m l3D m lC m3 l23 o6 t o6 m l3 m l37 m l m3 l5 m12 lA m4 l12 o7 l2 m l3A m lF m9
   lD m4 l1A m2 l39 m2 l4 m5 l7 m l14 m4 l1B m l48 m5 l3 m6 l59 m l2 mB t l7 m8 l62 m l2 m9 lB
   m8 l48 m2 l1B m l m l m o4 l33 mE l m5 l m2 l5 m31 l8 m l66 m4 l m6 l m2 l2 m2 l19 m2 l4 m3
   l10 m4 lD m l2 m2 l6 m lF m l2BF m3 l30 o10 l60 o l27F w l1A o5 l72 m3 l1D m2 l1E mE l12 mE
   l34 m2 l m7 l8 m l2 mB l7 t l m3 l10 o1B m3 b m l75 m2 l22 m l76 m3 l4 m2 l9 m l6 m7 o6 l98
   o22 l17 m2 l2 m3 l38 m l m9 l m l2 m8 l6 mD l30 m54 l30 m l m5 l m l5 m l28 m9 lC m2 l20 m4
   l2 m2 l m3 l38 m l m2 l3 m l m3 l3A m8 l2 m5 l95 m3 l mD l m7 l4 m l6 m l3 m2 lC6 m40 l1BD o
   l o3 lB o3 lD o3 lD o5 lB o3 wB b3 l r o18 w7 c t5 oF c o1A w b6 w4 b6 e l3 e6 s2 o3 l eA s2
   o4 l10 t30 m30 o2 l o4 l o2 lA o l o3 l5 o6 l o l o l o l4 t lB o2 l4 o5 l5 o4 l2 o10 l29 o89
   s t o122 l45 o1A l oF2 e14 l4E o1C2 l o153 l100 o300 lE5 o6 l4 m3 l7 o7 l7F m l60 m20 o200 w
   o4 l3 o19 l9 m4 l2 o l5 o2 l5 o4 l58 m2 o2 l3 o l5A o lC4 o30 l2D o3 l30 o10 l1C o3 l32 oF lC
   o4 lA7 o4 l63 o2 l1F o l19C0 o40 l5690 o40 l13D o3 l5F m4 o mA o2 l1E m2 l50 m2 lE o22 l66 o
   l79 m l3 m l4 m l19 m2 l o4 m4 l8 t8 l34 oC l44 mA l12 m12 lD m l26 m8 l19 mB l2E m3 l30 m l2
   m4 l2 m2 l27 m l43 m6 l2 m2 l2 mB l3 m l8 m l2F m l33 m l m3 l2 m2 l5 m2 l m l2A m2 l8 mB l69
   o6 l75 m l2 m l4 m3 l4F2D r m rA s r26 a1EE o12 a7F o21 aD o3 m10 o10 m10 o20 c o c2 o c o9 t
   o2 s2 o5 t2 o5 a8F b2 o2 t3 o5 s c s c2 eA c o6 l1A o6 l1A oB l7A t2 o3 t3 o18 l101 o l3E o4D
   l3 o40 l2D m83 l60 m e1F l76 mA l480 r11F o rE1 mF r28 m8 rA5 m6 r4E o7 r1C0 a24 mC n150 r2B
   m2 r50 m3 r30 a16 mB a1F r12 m4 r7A l m l36 mF lB o14 lA m l2 m2 lA m3 l31 m4 l2 m2 l7 mB l33
   m3 l24 m5 l m9 l3D m lC m2 l34 m9 lA m4 l2 m l5F m3 l2 m l m2 l6 m l2 m3F l5F m l3 mD l10 m2
   l39 m2 l3 m l25 m9A l38 m8 l2 m3 l m l17 m l54 m6 l m l4 m2 l m2 lEE m6 l4 m2 l m2 l1B m24
   l33 m8 l2 m l m2 l1F o20 l2B m l m l2 m6 l m l65 m3 l2 m4 l m9 lFF m9 l m2 l100 m2 l m l4 m
   l90 m8 l4 m l20 m6 l2 m2 l28 m6 l2 m4 l8 m9 l m6 l2 m3 l2E mD l m2 l196 mE l54 m17 l m7 l m2
   l m4B l31 m15 l m9 l40 m3 l2 m l m l15B m2 lB m2 l34 m8 l2 m l m l92 o8 t4 o1E l1441 m l6
   mFB9 l26F0 m5 l3B m7 l418 m l3F m4 l4F o l mC l4CAD m2 l b1260 m50 l217 m3 l9 b8 m8 l2 m7 l1E
   m4 l3B o59 m3 o7B l40 o60 l37B o l39 o l39 o l39 o l39 o lA e32 l200 m37 l4 m32 l8 m lE m l16
   m465 l100 m30 l5F m71 l30 m7 l177 m12 l2C m4 lF t1D1 l1C m4 l310 rD0 m30 r44 m7 r326 a27F
   o210 eB o5 l1F o l3A o6 l3D o39 l7A o990 e410 lC0001 bFF mFF00 l20000"

def table : Runs := .ofText text

def ofMark? : Char → Option Direction
  | 'l' => some leftToRight
  | 'r' => some rightToLeft
  | 'a' => some arabicLetter
  | 'n' => some arabicDigit
  | 'e' => some europeanDigit
  | 's' => some sign
  | 'c' => some separator
  | 't' => some terminator
  | 'o' => some other
  | 'b' => some boundary
  | 'm' => some mark
  | 'w' => some space
  | _ => none

def ofChar (c : Char) : Direction := ((table.find? c.toNat).bind (ofMark? ·.mark)).getD leftToRight

def isFromRight (d : Direction) : Bool := d = rightToLeft || d = arabicLetter || d = arabicDigit

def isNeutral (d : Direction) : Bool :=
  [europeanDigit, sign, separator, terminator, other, boundary, mark].contains d

end Direction
end MeteredDownload.Text
