import Crosswalk.Text.Ranges

/-!
Upper and lower case of whole texts.

A letter may map to several (`ß` to `SS`), and a capital sigma at the end of a word has a small
form of its own. The tables list runs of letters whose partners keep one distance.
-/

namespace Crosswalk.Text

/-- A run of letters `first`, `first + step`, ..., `last` that maps to letters from `target` on. -/
structure CaseRun where
  first : Nat
  last : Nat
  step : Nat
  target : Nat

def caseRuns : List Nat → List CaseRun
  | a :: b :: s :: t :: rest => ⟨a, b, s, t⟩ :: caseRuns rest
  | _ => []

def CaseRun.apply? (r : CaseRun) (n : Nat) : Option Nat :=
  if r.first ≤ n ∧ n ≤ r.last ∧ (n - r.first) % r.step = 0 then some (n - r.first + r.target)
  else none

/-- Single letters to single letters. -/
def upperRuns : List CaseRun := caseRuns <| tableNumbers <|
  "51 51 1 po 68 6u 1 5c 6w 72 1 60 73 73 1 ag 75 8f 2 74 8h 8h 1 21 8j 8n 2 8i 8q 94 2 8p 97 " ++
  "af 2 96 ai am 2 ah an an 1 2b ao ao 1 g3 ar at 2 aq aw aw 1 av b0 b0 1 az b6 b6 1 b5 b9 b9 1 " ++
  "dy bd bd 1 bc be be 1 fx bi bi 1 f4 bl bp 2 bk bs bs 1 br bx bx 1 bw c0 c0 1 bz c4 c6 2 c3 " ++
  "c9 c9 1 c8 cd cd 1 cc cf cf 1 dz cl cl 1 ck cm cm 1 ck co co 1 cn cp cp 1 cn cr cr 1 cq cs " ++
  "cs 1 cq cu d8 2 ct d9 d9 1 b2 db dr 2 da du du 1 dt dv dv 1 dt dx dx 1 dw e1 f3 2 e0 f7 fn 2 " ++
  "f6 fw fw 1 fv fz g0 1 8se g2 g2 1 g1 g7 gf 2 g6 gg gg 1 8rz gh gh 1 8rx gi gi 1 8s0 gj gj 1 " ++
  "ap gk gk 1 au gm gn 1 ax gp gp 1 b3 gr gr 1 b4 gs gs 1 x4b gw gw 1 b7 gx gx 1 x4c gz gz 1 b8 " ++
  "h1 h1 1 x3h h2 h2 1 x4a h4 h4 1 bb h5 h5 1 ba h6 h6 1 x4e h7 h7 1 8rm h8 h8 1 x4d hb hb 1 bg " ++
  "hd hd 1 8ry he he 1 bh hh hh 1 bj hp hp 1 8ro hs hs 1 bq hu hu 1 x51 hv hv 1 bt hz hz 1 x4h " ++
  "i0 i0 1 by i1 i1 1 g4 i2 i3 1 c1 i4 i4 1 g5 ia ia 1 c7 il il 1 x4i im im 1 x4g n9 n9 1 pl oh " ++
  "oj 2 og on on 1 om or ot 1 sd q4 q4 1 p2 q5 q7 1 p4 q9 qp 1 pd qq qq 1 pv qr qz 1 pv r0 r0 1 " ++
  "p8 r1 r2 1 pa r4 r4 1 pe r5 r5 1 pk r9 r9 1 py ra ra 1 ps rb rb 1 r3 rd rz 2 rc s0 s0 1 pm " ++
  "s1 s1 1 pt s2 s2 1 s9 s3 s3 1 ov s5 s5 1 ph s8 s8 1 s7 sb sb 1 sa ts un 1 sw uo v3 1 sg v5 " ++
  "w1 2 v4 wb xr 2 wa xu y6 2 xt y7 y7 1 xs y9 10v 2 y8 129 13a 1 10x 3bk 3cq 1 5n4 3ct 3cv 1 " ++
  "5od 3y0 3y5 1 3xs 5mo 5mo 1 sy 5mp 5mp 1 t0 5mq 5mq 1 ta 5mr 5ms 1 td 5mt 5mt 1 te 5mu 5mu 1 " ++
  "tm 5mv 5mv 1 v6 5mw 5mw 1 wui 5tl 5tl 1 x31 5tp 5tp 1 8rn 5u6 5u6 1 x52 5xd 61h 2 5xc 61n " ++
  "61n 1 600 61t 64f 2 61s 64g 64n 1 64o 64w 651 1 654 65c 65j 1 65k 65s 65z 1 660 668 66d 1 " ++
  "66g 66p 66v 2 66x 674 67b 1 67c 67k 67l 1 69m 67m 67p 1 6a0 67q 67r 1 6ai 67s 67t 1 6bc 67u " ++
  "67v 1 6ay 67w 67x 1 6be 69c 69d 1 69k 69q 69q 1 pl 6a8 6a9 1 6ag 6ao 6ap 1 6aw 6at 6at 1 6b0 " ++
  "6ku 6ku 1 6k2 6ls 6m7 1 6lc 6mc 6mc 1 6mb 79s 7ah 1 792 8q8 8rj 1 8ow 8rl 8rl 1 8rk 8rp 8rp " ++
  "1 fu 8rq 8rq 1 fy 8rs 8rw 2 8rr 8s3 8s3 1 8s2 8s6 8s6 1 8s5 8sh 8v7 2 8sg 8vg 8vi 2 8vf 8vn " ++
  "8vn 1 8vm 8w0 8x1 1 3a8 8x3 8x3 1 3bb 8x9 8x9 1 3bh wu9 wvh 2 wu8 ww1 wwr 2 ww0 x0j x0v 2 " ++
  "x0i x0z x2n 2 x0y x2y x30 2 x2x x33 x3b 2 x32 x3g x3g 1 x3f x3l x3n 2 x3k x3o x3o 1 x50 x3r " ++
  "x49 2 x3q x4l x4z 2 x4k x54 x56 2 x53 x5d x5d 1 x5c x5j x5l 2 x5i x6e x6e 1 x6d xub xub 1 " ++
  "x4j xv4 xxb 1 3vk 1ef5 1efu 1 1ee9 1fe0 1ff3 1 1fcw 1fiw 1fjv 1 1fhs 1fo7 1foh 1 1fn4 1foj " ++
  "1fox 1 1fng 1foz 1fp5 1 1fnw 1fp7 1fp8 1 1fo4 1h34 1h4i 1 1h1c 1jgg 1jhb 1 1jfk 20dc 20e7 1 " ++
  "20cg 2oma 2on7 1 2olc"

def lowerRuns : List CaseRun := caseRuns <| tableNumbers <|
  "5c 5y 1 68 60 66 1 6w 74 8e 2 75 8i 8m 2 8j 8p 93 2 8q 96 ae 2 97 ag ag 1 73 ah al 2 ai ap " ++
  "ap 1 gj aq as 2 ar au au 1 gk av av 1 aw ax ay 1 gm az az 1 b0 b2 b2 1 d9 b3 b3 1 gp b4 b4 1 " ++
  "gr b5 b5 1 b6 b7 b7 1 gw b8 b8 1 gz ba ba 1 h5 bb bb 1 h4 bc bc 1 bd bg bg 1 hb bh bh 1 he " ++
  "bj bj 1 hh bk bo 2 bl bq bq 1 hs br br 1 bs bt bt 1 hv bw bw 1 bx by by 1 i0 bz bz 1 c0 c1 " ++
  "c2 1 i2 c3 c5 2 c4 c7 c7 1 ia c8 c8 1 c9 cc cc 1 cd ck ck 1 cm cl cl 1 cm cn cn 1 cp co co 1 " ++
  "cp cq cq 1 cs cr d7 2 cs da dq 2 db dt dt 1 dv du dw 2 dv dy dy 1 b9 dz dz 1 cf e0 f2 2 e1 " ++
  "f4 f4 1 bi f6 fm 2 f7 fu fu 1 8rp fv fv 1 fw fx fx 1 be fy fy 1 8rq g1 g1 1 g2 g3 g3 1 ao g4 " ++
  "g4 1 i1 g5 g5 1 i4 g6 ge 2 g7 og oi 2 oh om om 1 on ov ov 1 s3 p2 p2 1 q4 p4 p6 1 q5 p8 p8 1 " ++
  "r0 pa pb 1 r1 pd pt 1 q9 pv q3 1 qr r3 r3 1 rb rc ry 2 rd s4 s4 1 qg s7 s7 1 s8 s9 s9 1 s2 " ++
  "sa sa 1 sb sd sf 1 or sg sv 1 uo sw tr 1 ts v4 w0 2 v5 wa xq 2 wb xs xs 1 y7 xt y5 2 xu y8 " ++
  "10u 2 y9 10x 11y 1 129 3a8 3b9 1 8w0 3bb 3bb 1 8x3 3bh 3bh 1 8x9 3vk 3xr 1 xv4 3xs 3xx 1 3y0 " ++
  "5n4 5oa 1 3bk 5od 5of 1 3ct 5xc 61g 2 5xd 61q 61q 1 67 61s 64e 2 61t 64o 64v 1 64g 654 659 1 " ++
  "64w 65k 65r 1 65c 660 667 1 65s 66g 66l 1 668 66x 673 2 66p 67c 67j 1 674 688 68f 1 680 68o " ++
  "68v 1 68g 694 69b 1 68w 69k 69l 1 69c 69m 69n 1 67k 69o 69o 1 69f 6a0 6a3 1 67m 6a4 6a4 1 " ++
  "69v 6ag 6ah 1 6a8 6ai 6aj 1 67q 6aw 6ax 1 6ao 6ay 6az 1 67u 6b0 6b0 1 6at 6bc 6bd 1 67s 6be " ++
  "6bf 1 67w 6bg 6bg 1 6b7 6jq 6jq 1 qx 6ju 6ju 1 2z 6jv 6jv 1 6d 6k2 6k2 1 6ku 6lc 6lr 1 6ls " ++
  "6mb 6mb 1 6mc 792 79r 1 79s 8ow 8q7 1 8q8 8rk 8rk 1 8rl 8rm 8rm 1 h7 8rn 8rn 1 5tp 8ro 8ro 1 " ++
  "hp 8rr 8rv 2 8rs 8rx 8rx 1 gh 8ry 8ry 1 hd 8rz 8rz 1 gg 8s0 8s0 1 gi 8s2 8s2 1 8s3 8s5 8s5 1 " ++
  "8s6 8se 8sf 1 fz 8sg 8v6 2 8sh 8vf 8vh 2 8vg 8vm 8vm 1 8vn wu8 wvg 2 wu9 ww0 wwq 2 ww1 x0i " ++
  "x0u 2 x0j x0y x2m 2 x0z x2x x2z 2 x2y x31 x31 1 5tl x32 x3a 2 x33 x3f x3f 1 x3g x3h x3h 1 h1 " ++
  "x3k x3m 2 x3l x3q x48 2 x3r x4a x4a 1 h2 x4b x4b 1 gs x4c x4c 1 gx x4d x4d 1 h8 x4e x4e 1 h6 " ++
  "x4g x4g 1 im x4h x4h 1 hz x4i x4i 1 il x4j x4j 1 xub x4k x4y 2 x4l x50 x50 1 x3o x51 x51 1 " ++
  "hu x52 x52 1 5u6 x53 x55 2 x54 x5c x5c 1 x5d x5i x5k 2 x5j x6d x6d 1 x6e 1ee9 1eey 1 1ef5 " ++
  "1fcw 1fdz 1 1fe0 1fhs 1fir 1 1fiw 1fn4 1fne 1 1fo7 1fng 1fnu 1 1foj 1fnw 1fo2 1 1foz 1fo4 " ++
  "1fo5 1 1fp7 1h1c 1h2q 1 1h34 1jfk 1jgf 1 1jgg 20cg 20db 1 20dc 2olc 2om9 1 2oma"

/-- Entries of a letter, a count and that many letters. -/
def expansionsFrom (fuel : Nat) (ns : List Nat) : List (Nat × List Nat) :=
  match fuel, ns with
  | fuel + 1, c :: n :: rest => (c, rest.take n) :: expansionsFrom fuel (rest.drop n)
  | _, _ => []

/-- Letters whose upper case is several letters. -/
def upperExpansions : List (Nat × List Nat) := expansionsFrom 200 <| tableNumbers <|
  "67 2 2b 2b 95 2 jg 26 ds 2 22 lo pc 3 pl lk ld q8 3 px lk ld 13b 2 111 11u 61i 2 20 mp 61j 2 " ++
  "2c lk 61k 2 2f lm 61l 2 2h lm 61m 2 1t ji 66o 2 px lv 66q 3 px lv lc 66s 3 px lv ld 66u 3 px " ++
  "lv n6 680 2 64o pl 681 2 64p pl 682 2 64q pl 683 2 64r pl 684 2 64s pl 685 2 64t pl 686 2 " ++
  "64u pl 687 2 64v pl 688 2 64o pl 689 2 64p pl 68a 2 64q pl 68b 2 64r pl 68c 2 64s pl 68d 2 " ++
  "64t pl 68e 2 64u pl 68f 2 64v pl 68g 2 65k pl 68h 2 65l pl 68i 2 65m pl 68j 2 65n pl 68k 2 " ++
  "65o pl 68l 2 65p pl 68m 2 65q pl 68n 2 65r pl 68o 2 65k pl 68p 2 65l pl 68q 2 65m pl 68r 2 " ++
  "65n pl 68s 2 65o pl 68t 2 65p pl 68u 2 65q pl 68v 2 65r pl 68w 2 67c pl 68x 2 67d pl 68y 2 " ++
  "67e pl 68z 2 67f pl 690 2 67g pl 691 2 67h pl 692 2 67i pl 693 2 67j pl 694 2 67c pl 695 2 " ++
  "67d pl 696 2 67e pl 697 2 67f pl 698 2 67g pl 699 2 67h pl 69a 2 67i pl 69b 2 67j pl 69e 2 " ++
  "69m pl 69f 2 pd pl 69g 2 p2 pl 69i 2 pd n6 69j 3 pd n6 pl 69o 2 pd pl 69u 2 6a2 pl 69v 2 pj " ++
  "pl 69w 2 p5 pl 69y 2 pj n6 69z 3 pj n6 pl 6a4 2 pj pl 6aa 3 pl lk lc 6ab 3 pl lk ld 6ae 2 pl " ++
  "n6 6af 3 pl lk n6 6aq 3 px lk lc 6ar 3 px lk ld 6as 2 pt lv 6au 2 px n6 6av 3 px lk n6 6b6 2 " ++
  "6be pl 6b7 2 q1 pl 6b8 2 pb pl 6ba 2 q1 n6 6bb 3 q1 n6 pl 6bg 2 q1 pl 1dkw 2 1y 1y 1dkx 2 1y " ++
  "21 1dky 2 1y 24 1dkz 3 1y 1y 21 1dl0 3 1y 1y 24 1dl1 2 2b 2c 1dl2 2 2b 2c 1dlf 2 11g 11i " ++
  "1dlg 2 11g 111 1dlh 2 11g 117 1dli 2 11q 11i 1dlj 2 11g 119"

/-- Letters that have a case, outside ASCII. -/
def casedRanges : List (Nat × Nat) := rangesOf <|
  "16 1 a 1 4 1 5 n 1 v 1 5f 1 4 4 5s 1 10 7 2 u 5 2o 1 16 4 2 2 2 4 1 1 6 1 1 3 1 1 1 k 1 2b 1 " ++
  "3v 8 4m 1 12 9 15 26v 12 1 1 5 1 2 17 2 3 io 2e 2 6 1oi 9 7 17 2 3 1s 5c 1s 7q 2 6 2 12 2 6 " ++
  "2 8 1 1 1 1 1 1 1 v 2 1h 1 7 1 1 3 3 1 7 3 4 2 6 4 d 5 3 1 7 38 1 d 1 g d 2t 1 4 1 2 a 1 1 3 " ++
  "5 6 1 1 1 1 1 1 4 1 6 4 1 2 4 5 5 4 1 h w 3 2 mp 1g 1ee 6d 6 4 3 2 c 12 1 1 5 1 nwy 1a i u " ++
  "3o 2u 3 4 1 1n 5 2 1 1 1 5 r 2 1 3 mt 17 1 d 7 28 fnk 7 c 5 sp q 6 q x1 28 2o 10 4 10 38 b 1 " ++
  "f 1 7 1 2 1 b 1 f 1 7 1 2 cj 1 2 3 1 16 1 9 xx 1f d 1f 2b1 1s gv4 1s k1s 2d 1 1z 1 2 2 1 2 2 " ++
  "2 4 1 c 1 1 1 7 1 1t 1 4 2 8 1 7 1 s 1 4 1 5 1 1 3 7 1 9g 2 p 1 p 1 v 1 p 1 v 1 p 1 v 1 p 1 " ++
  "v 1 p 1 8 1f8 a 1 k 1y9 1w 1kc q 6 q 6 q"

/-- Characters that stand inside a word without ending it, outside ASCII. -/
def ignorableRanges : List (Nat × Nat) := rangesOf <|
  "14 1 4 1 1 1 4 1 2 2 dz 5c 4 2 4 1 9 2 1 1 6z 7 5r 1 5 1 1d 19 1 1 1 2 1 2 1 1 18 1 b 6 a b " ++
  "1 1 z 1 a l g 1 2t 8 1 a 1 4 x 1 1 1 u r 2j b 1m b 4 1 2 1 o o 17 3 18 1 7 2 6 8 15 1m 1j 1 " ++
  "1 1 4 8 4 1 3 7 a 2 d 1 f 1 1m 1 4 4 8 1 k 2 q 1 2 2 1l 1 4 2 4 2 2 3 3 1 u 2 3 1 b 2 1l 1 4 " ++
  "5 1 2 4 1 k 2 m 6 1 1 1m 1 2 1 1 4 8 1 7 2 b 2 u 1 1p 1 c 1 1e 1 3 1 1j 1 1 3 5 3 1 4 7 2 b " ++
  "2 t 1 1m 1 2 1 6 1 5 2 k 2 s 2 1l 2 4 4 8 1 k 2 t 1 20 1 7 3 1 1 2i 1 2 7 b 9 2q 1 2 9 9 1 1 " ++
  "6 22 2 r 1 1 1 1 1 1j e 1 5 1 2 5 b 1 10 9 1 2u 4 1 6 1 2 2 2 p 2 4 3 g 4 d 1 2 2 6 1 f 1 2m " ++
  "1 gw 3 qa 3 t 2 u 2 u 2 1s 2 1 7 8 1 2 b 3 1 5 1 19 5 1f 1 1t 2 y 1 3a 3 4 2 9 1 6 3 63 2 2 " ++
  "1 1m 1 1 7 1 1 1 1 2 8 6 a 2 1 13 1 8 v 1d 4 1c 1 1 5 1 1 5 1 14 9 c 2 w 4 2 2 1 3 1k 1 1 2 " ++
  "3 1 1 3 1m 8 2 2 1s 6 2a 3 1 d 1 7 4 1 6 1 3 2 1e 1r d 1 y 2t cd 1 1 3 b 3 d 3 d 3 d 2 c 5 8 " ++
  "2 a 1 2 1 2 5 1d 5 1 a 1 1 d 1 g d 1f x 2a3 2 35 3 3h 1 f 1 2o w 1b 1 d1 1 10 4 3 5 5 1 2l 6 " ++
  "2l 3 lxy 1 yq 6 7i 1 2q 4 1 a 1 1 s 4 28 2 e y 26 1 n 3 2v 3 3 2 8 1 3 1 4 1 p 2 5 1 47 2 q " ++
  "i d 1 12 8 p b 1a 3 1c 1 2 4 2 2 h 1 l 2 1u 6 2 2 2 2 c 1 8 1 z 1 b 1 1f 1 1 3 2 2 5 2 1 1 r " ++
  "1 e 2 5 2 1 1 2s 5 9 3 3d 1 2 1 4 1 fn4 1 43 h fx g 3 1 c g y 1 2 1 4p 1 7 1 6 1 b 1 z 1 1 1 " ++
  "1b 1 19 2 1v 1 l 3 e9 1 6a 1 45 5 sl 6 1 16 1 9 g6 3 1 2 5 4 14 3 4 1 4l 2 fx 4 ar 2 49 b 1d " ++
  "4 3f 1 1i f 15 1 2 2 a 3 1d 4 2 2 2 1 4 1 a 1 1e 3 10 5 1 8 1q 1 c 2 1g 9 a 4 2 1 2n 3 2 1 1 " ++
  "2 6 1 4g 1 3 8 l 2 1l 2 3 1 11 7 3 5 5f 8 2 3 1 1 n 1 2c 6 1 1 4 2 1 2 6m 4 6 2 1 2 r 2 2d 8 " ++
  "2 1 1 2 2y 1 1 1 2 6 1 1 2t 3 2 4 1 5 77 9 1 2 74 2 1 1 4 1 40 4 2 2 4 1 w a 14 6 2 4 8 1 9 " ++
  "6 2 3 1a d 1 2 ba 7 1 6 1 1 2a m 2 7 1 2 1 2 3e 6 3 1 1 2 1 7 1 1 20 2 3 1 1 1 9n 2 46z 9 " ++
  "at3 5 1n 7 9 4 sr 1 1r h 1s 2 1 2 cnf 4 1 7 1 2 2hq 2 1 4 3mk 1a 2 n f4 3 9 g 2 7 u 4 44 3 " ++
  "1iz 1j 4 1e 8 1 e 1 m 5 1 f 11s 7 1 h 2 7 1 2 1 5 79 e a8 1 1p 4 15s 7 31 8 23z 5 gx6p 1 u " ++
  "2o 3k 6o"

def isCased (c : Char) : Bool :=
  if c.toNat < 128 then c.isAlpha else inRanges casedRanges c

/-- Whether the search for a neighbouring letter passes over `c`. -/
def isCaseIgnorable (c : Char) : Bool :=
  if c.toNat < 128 then c.toNat == 39 || c == '.' || c == ':' || c == '^' || c.toNat == 96
  else inRanges ignorableRanges c

/-- The single letter that a table of runs gives, or the letter itself. -/
def simpleCase (runs : List CaseRun) (c : Char) : Char :=
  ((runs.findSome? fun r => r.apply? c.toNat).map Char.ofNat).getD c

def upperChar (c : Char) : List Char :=
  if c.toNat < 128 then [c.toUpper]
  else
    match upperExpansions.find? fun e => e.1 == c.toNat with
    | some e => e.2.map Char.ofNat
    | none => [simpleCase upperRuns c]

def upper (cs : List Char) : List Char := cs.flatMap upperChar

/-- The small letter of one letter by itself. -/
def lowerSimple (c : Char) : Char :=
  if c.toNat < 128 then c.toLower else simpleCase lowerRuns c

/-- Whether a capital sigma after `before` (nearest first) and before `after` ends its word. -/
def sigmaEndsWord (before after : List Char) : Bool :=
  ((before.dropWhile isCaseIgnorable).head?.any isCased) &&
    !((after.dropWhile isCaseIgnorable).head?.any isCased)

def lowerFrom (before : List Char) : List Char → List Char
  | [] => []
  | c :: rest =>
    (if c.toNat = 0x3a3 then [Char.ofNat (if sigmaEndsWord before rest then 0x3c2 else 0x3c3)]
     else if c.toNat = 0x130 then ['i', Char.ofNat 0x307]
     else [lowerSimple c]) ++ lowerFrom (c :: before) rest

def lower (cs : List Char) : List Char := lowerFrom [] cs

end Crosswalk.Text
