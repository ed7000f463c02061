import MeteredDownload.Text.Runs

/-!
# How letters join

In some scripts letters are joined to those beside them; the table of Unicode 15 tells on which side.
-/
set_option autoImplicit false
namespace MeteredDownload.Text.Joining

/-- The letters that join: `l` to the one after them, `r` to the one before, `d` to both, `v` to none. -/
def text : String :=
  "v620 d v r4 d r d r d5 r4 dD v d7 r d2 v23 d2 v r3 v r3 d10 r12 d26 r d2 r9 d r d r d2 r2 v r
   v18 r2 vA d3 v2 d v10 r v d3 r5 d4 r d9 r d r d r d2 r v1D r dB r3 dF r2 d4 r d r2 d3 r2 d6
   v4A d21 v55 r d5 r2 d r dA r d r3 v7 d v d4 v r d r1A v3 d v2 d5 r2 v10 dA r3 v r d2 r2 d6 r
   dF vF3E d v18 d60 v7 d22 v d6 v8F90 d32 l v624D d5 r v r v r2 v2 l r5 d4 l d5 r d3 r v2 r v6
   d4 r v90 d r d r3 d3 r d2 r d r2 d r8 v10 r4 d2 v151 l d21 r d v20C d3 r d11 vC d3 r v1B d4
   r2 dC v2E d v d2 r3 v d r2 d2 r d2 v d r2 d v4 r d l15 vD920 d44 vF16BC"

def table : Runs := .ofText text

def markOf (c : Char) : Char := ((table.find? c.toNat).map (·.mark)).getD 'v'

def joinsNext (c : Char) : Bool := markOf c = 'l' || markOf c = 'd'

def joinsPrevious (c : Char) : Bool := markOf c = 'r' || markOf c = 'd'

end MeteredDownload.Text.Joining
