import Liveness.Unicode.Ideograph
import Liveness.Unicode.Runs

/-! Bidirectional classes, as far as the rule for labels tells them apart. -/

namespace Liveness.Unicode

inductive BidiClass where
  | left | right | arabicLetter | arabicNumber | europeanNumber | europeanSeparator
  | commonSeparator | europeanTerminator | otherNeutral | boundaryNeutral
  | nonspacingMark | other
  deriving DecidableEq, Repr

def BidiClass.ofText : List Char → BidiClass
  | ['L'] => .left
  | ['R'] => .right
  | ['A'] => .arabicLetter
  | ['N'] => .arabicNumber
  | ['E'] => .europeanNumber
  | ['S'] => .europeanSeparator
  | ['C'] => .commonSeparator
  | ['T'] => .europeanTerminator
  | ['O'] => .otherNeutral
  | ['B'] => .boundaryNeutral
  | ['M'] => .nonspacingMark
  | _ => .other

def bidiRuns : Runs BidiClass := Runs.ofText BidiClass.ofText .left "
0=B 9=- 5=B e=- 5=O 2=T 3=O 5=S 1=C 1=S 1=C 2=E a=C 1=O 6=L 1a=O 6=L 1a=O 4=B 6=- 1=B 1a=C 1=O
1=T 4=O 4=L 1=O 2=B 1=O 2=T 2=E 2=O 1=L 1=O 3=E 1=L 1=O 5=L 17=O 1=L 1f=O 1=L 1c1=O 2=L 7=O e=L
2=O e=L 5=O 9=L 1=O 11=M 70=L 4=O 2=L 8=O 1=L 5=O 2=L 1=O 1=L 6e=O 1=L 8c=M 7=L 100=O 1=L 2=O
2=T 1=R 1=M 2d=R 1=M 1=R 1=M 2=R 1=M 2=R 1=M 1=R 38=N 6=O 2=A 1=T 2=A 1=C 1=A 1=O 2=M b=A 30=M
15=N a=T 1=N 2=A 3=M 1=A 65=M 7=N 1=O 1=M 6=A 2=M 2=O 1=M 4=A 2=E a=A 17=M 1=A 1e=M 1b=A 5b=M
b=A f=R 2b=M 9=R 2=O 4=R 3=M 1=R 18=M 4=R 1=M 9=R 1=M 3=R 1=M 5=R 2b=M 3=R 4=A 30=N 2=A 5=M 9=A
2a=M 18=N 1=M 20=L 37=M 1=L 1=M 1=L 4=M 8=L 4=M 1=L 3=M 7=L a=M 2=L 1d=M 1=L 3a=M 1=L 4=M 4=L
8=M 1=L 14=M 2=L e=T 2=L 7=T 1=L 2=M 1=L 2=M 2=L 39=M 1=L 4=M 2=L 4=M 2=L 2=M 3=L 3=M 1=L 1e=M
2=L 3=M 1=L b=M 2=L 39=M 1=L 4=M 5=L 1=M 2=L 4=M 1=L 14=M 2=L d=T 1=L 8=M 6=L 1=M 1=L 3a=M 1=L
2=M 1=L 1=M 4=L 8=M 1=L 7=M 2=L b=M 2=L 1e=M 1=L 3d=M 1=L c=M 1=L 25=O 6=T 1=O 1=L 5=M 1=L 3=M
1=L 37=M 1=L 1=M 3=L 5=M 3=L 1=M 4=L 7=M 2=L b=M 2=L 14=O 7=L 2=M 1=L 3a=M 1=L f=M 2=L 14=M 2=L
1c=M 2=L 39=M 2=L 4=M 4=L 8=M 1=L 14=M 2=L 1d=M 1=L 48=M 1=L 7=M 3=L 1=M 1=L 5a=M 1=L 2=M 7=L
4=T 1=L 7=M 8=L 62=M 1=L 2=M 9=L b=M 7=L 49=M 2=L 1b=M 1=L 1=M 1=L 1=M 1=O 4=L 33=M e=L 1=M 5=L
1=M 2=L 5=M b=L 1=M 24=L 9=M 1=L 66=M 4=L 1=M 6=L 1=M 2=L 2=M 2=L 19=M 2=L 4=M 3=L 10=M 4=L d=M
1=L 2=M 2=L 6=M 1=L f=M 1=L 2bf=M 3=L 30=O a=L 66=O 1=L 27f=- 1=L 1a=O 2=L 75=M 3=L 1d=M 2=L
1e=M 2=L 1e=M 2=L 40=M 2=L 1=M 7=L 8=M 1=L 2=M b=L 7=T 1=L 1=M 1=L 12=O a=L 6=O b=M 3=B 1=M 1=L
75=M 2=L 22=M 1=L 76=M 3=L 4=M 2=L 9=M 1=L 6=M 3=L 4=O 1=L 3=O 2=L 98=O 22=L 17=M 2=L 2=M 1=L
3a=M 1=L 1=M 7=L 1=M 1=L 1=M 1=L 2=M 8=L 6=M a=L 2=M 1=L 30=M 2e=L 2=M c=L 14=M 4=L 30=M 1=L 1=M
5=L 1=M 1=L 5=M 1=L 28=M 9=L c=M 2=L 20=M 4=L 2=M 2=L 1=M 3=L 38=M 1=L 1=M 2=L 3=M 1=L 1=M 3=L
3a=M 8=L 2=M 2=L 98=M 3=L 1=M d=L 1=M 7=L 4=M 1=L 6=M 1=L 3=M 2=L c6=M 40=L 1bd=O 1=L 1=O 3=L
b=O 3=L d=O 3=L d=O 3=L d=O 2=L 1=- b=B 3=L 1=R 1=O 18=- 7=C 1=T 5=O f=C 1=O 1a=- 1=B 6=- 4=B
6=E 1=L 3=E 6=S 2=O 3=L 1=E a=S 2=O 3=L 11=T 30=M 21=L f=O 2=L 1=O 4=L 1=O 2=L a=O 1=L 1=O 3=L
5=O 6=L 1=O 1=L 1=O 1=L 1=O 1=L 4=T 1=L b=O 2=L 4=O 5=L 5=O 4=L 2=O 10=L 29=O 3=L 4=O 82=S 1=T
1=O 122=L 45=O 1a=L 1=O 94=L 16=O b=L 15=O 28=E 14=L 4e=O 1c2=L 1=O 153=L 100=O 274=L 2=O 8a=L
e5=O 6=L 4=M 3=L 7=O 7=L 7f=M 1=L 60=M 20=O 5e=L 22=O 1a=L 1=O 59=L c=O d6=L 1a=O 10=- 1=O 4=L
3=O 19=L 9=M 4=L 2=O 1=L 5=O 2=L 5=O 3=L 59=M 2=O 2=L 3=O 1=L 5a=O 1=L c4=O 26=L 9=O 1=L 2d=O
2=L 31=O 10=L 1c=O 3=L 32=O f=L c=O 4=L a7=O 4=L 63=O 2=L 1f=O 1=L 19c0=O 40=L 5690=O 37=L 146=O
3=L 5f=M 4=O 1=M a=O 2=L 1e=M 2=L 50=M 2=L e=O 22=L 66=O 1=L 79=M 1=L 3=M 1=L 4=M 1=L 19=M 2=L
1=O 4=M 1=L b=T 2=L 3a=O 4=L 4c=M 2=L 1a=M 12=L d=M 1=L 26=M 8=L 19=M b=L 2e=M 3=L 30=M 1=L 2=M
4=L 2=M 2=L 27=M 1=L 43=M 6=L 2=M 2=L 2=M 2=L c=M 1=L 8=M 1=L 2f=M 1=L 33=M 1=L 1=M 3=L 2=M 2=L
5=M 2=L 1=M 1=L 2a=M 2=L 8=M 1=L 73=O 2=L 79=M 1=L 2=M 1=L 4=M 1=L 4f2f=R 1=M 1=R a=S 1=R 26=A
1ee=O 12=A 7f=O 1=B 20=A d=O 3=M 10=O a=L 6=M 10=O 20=C 1=O 1=C 1=L 1=O 1=C 1=O 9=T 1=O 2=S 2=O
3=L 1=O 1=T 2=O 1=L 4=A 8f=B 1=L 1=O 2=T 3=O 5=S 1=C 1=S 1=C 2=E a=C 1=O 6=L 1a=O 6=L 1a=O b=L
7a=T 2=O 3=T 2=L 1=O 7=L 1=B 9=O 5=B 2=L 101=O 1=L 3e=O 4d=L 3=O d=L 3=O 1=L 5c=M 1=L e2=M 1=E
1b=L 7a=M 5=L 485=R 11f=O 1=R e1=M 3=R 1=M 2=R 5=M 4=R 28=M 3=R 4=M 1=R a5=M 2=R 52=O 7=R 1c0=A
24=M 4=A 8=N a=A 6=R 29=M 5=R f2=N 1f=R 2c=M 2=R 13=A 3a=M 6=R 30=A 16=M b=A 1f=R 12=M 4=R 7a=L
1=M 1=L 36=M f=L b=O 14=L a=M 1=L 2=M 2=L a=M 3=L 31=M 4=L 2=M 2=L 7=M 1=L 3d=M 3=L 24=M 5=L 1=M
8=L 3e=M 1=L c=M 2=L 34=M 9=L a=M 4=L 2=M 1=L 5f=M 3=L 2=M 1=L 1=M 2=L 6=M 1=L 2=M 1=L 9d=M 1=L
3=M 8=L 15=M 2=L 39=M 2=L 3=M 1=L 25=M 7=L 3=M 5=L 46=M 6=L d=M 1=L 1=M 1=L 1=M 1=L e=M 2=L 55=M
8=L 2=M 3=L 1=M 1=L 17=M 1=L 54=M 6=L 1=M 1=L 4=M 2=L 1=M 2=L ee=M 4=L 6=M 2=L 1=M 2=L 1b=M 2=L
55=M 8=L 2=M 1=L 1=M 2=L 1f=O d=L 3e=M 1=L 1=M 1=L 2=M 6=L 1=M 1=L 65=M 3=L 2=M 4=L 1=M 5=L
103=M 9=L 1=M 2=L 100=M 2=L 1=M 1=L 4=M 1=L 90=M 4=L 2=M 2=L 4=M 1=L 20=M 6=L 2=M 2=L 28=M 6=L
2=M 4=L 8=M 1=L 9=M 6=L 2=M 3=L 2e=M d=L 1=M 2=L c6=M 1=L 1=M 3=L 1=M 1=L c9=M 7=L 1=M 6=L 54=M
16=L 2=M 7=L 1=M 2=L 1=M 2=L 7a=M 6=L 3=M 1=L 1=M 2=L 1=M 7=L 1=M 1=L 48=M 2=L 3=M 1=L 1=M 1=L
15b=M 2=L b=M 2=L 34=M 5=L 5=M 1=L 1=M 1=L 17=M 1=L 7a=O 8=T 4=O 11=L 144e=M 1=L 6=M f=L 2cc8=M
c=L 3=M 3=L 9c0=M 5=L 3b=M 7=L 418=M 1=L 3f=M 4=L 4f=O 1=L 1=M 1=L 4cb8=M 2=L 1=B 4=L f5c=O f0=E
a=O 3=L 3=O 1b4=L 6=O 17=L f=O 11=L f=M 2e=L 2=M 17=L 220=M 3=L 9=B 8=M 8=L 2=M 7=L 1e=M 4=L
3b=O 2=L 15=O 42=M 3=O 1=L ba=O 57=L 384=O 1=L 39=O 1=L 39=O 1=L 39=O 1=L 39=O 1=L a=E 32=L
200=M 37=L 4=M 32=L 8=M 1=L e=M 1=L 16=M 5=L 1=M f=L 550=M 7=L 1=M 11=L 2=M 7=L 1=M 2=L 1=M 5=L
64=M 1=L a0=M 7=L 177=M 1=L 3d=M 4=L f=T 1=L 1ec=M 4=L fe=M 2=L f3=M 1=L 2=M 1=L 7=M 2=L 5=M 1=L
10a=R d0=M 7=R 6d=M 7=R 325=A 50=R 40=A 50=R b0=A f0=O 2=A e=R 100=O 2c=L 4=O 64=L c=O f=L 2=O
f=L 1=O f=L 1=O 25=L a=E b=O 5=L 1f=O 1=L 3a=O 6=L 3d=O 1=L b2=O 6=L 9a=O 3d9=L 3=O 11=L 3=O d=L
3=O da=L 6=O c=L 4=O 1=L f=O c=L 4=O 38=L 8=O a=L 6=O 28=L 8=O 1e=L 2=O c=L 4=O 2=L e=O 9=L 27=O
158=L 8=O e=L 2=O d=L 3=O b=L 3=O 39=L 1=O 1=L 4=O 10=L 2=O c=L 4=O a=L 7=O 93=L 1=O 5c=E a=O
1=L 403=B 2=L fffe=B 2=L fffe=B 2=L fffe=B 2=L fffe=B 2=L fffe=B 2=L fffe=B 2=L fffe=B 2=L
fffe=B 2=L fffe=B 2=L fffe=B 2=L fffe=B 2=L fffe=B 102=M f0=B e10=L effe=B 2=L fffe=B 2=L fffe=B"

def bidiClass (c : Char) : BidiClass :=
  if isIdeograph c then .left else bidiRuns.get c.toNat

end Liveness.Unicode
