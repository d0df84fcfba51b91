import Stimulus.Text.Runs

/-!
Which pairs of characters are one character, and where marks stand that follow one character.
-/

namespace Stimulus.Text

/-- Characters that are the same as a pair: the distance from the row before, and the pair. -/
def pairRows : List (List Nat) := rows (",".intercalate [
    "5c 1t lc,1 1t ld,1 1t le,1 1t lf,1 1t lk,1 1t lm,2 1v mf,1 1x lc,1 1x ld,1 1x le,1 1x lk",
    "1 21 lc,1 21 ld,1 21 le,1 21 lk,2 26 lf,1 27 lc,1 27 ld,1 27 le,1 27 lf,1 27 lk,3 2d lc",
    "1 2d ld,1 2d le,1 2d lk,1 2h ld,3 2p lc,1 2p ld,1 2p le,1 2p lf,1 2p lk,1 2p lm,2 2r mf",
    "1 2t lc,1 2t ld,1 2t le,1 2t lk,1 2x lc,1 2x ld,1 2x le,1 2x lk,2 32 lf,1 33 lc,1 33 ld",
    "1 33 le,1 33 lf,1 33 lk,3 39 lc,1 39 ld,1 39 le,1 39 lk,1 3d ld,2 3d lk,1 1t lg,1 2p lg",
    "1 1t li,1 2p li,1 1t mg,1 2p mg,1 1v ld,1 2r ld,1 1v le,1 2r le,1 1v lj,1 2r lj,1 1v lo",
    "1 2r lo,1 1w lo,1 2s lo,3 1x lg,1 2t lg,1 1x li,1 2t li,1 1x lj,1 2t lj,1 1x mg,1 2t mg",
    "1 1x lo,1 2t lo,1 1z le,1 2v le,1 1z li,1 2v li,1 1z lj,1 2v lj,1 1z mf,1 2v mf,1 20 le",
    "1 2w le,3 21 lf,1 2x lf,1 21 lg,1 2x lg,1 21 li,1 2x li,1 21 mg,1 2x mg,1 21 lj,4 22 le",
    "1 2y le,1 23 mf,1 2z mf,2 24 ld,1 30 ld,1 24 mf,1 30 mf,1 24 lo,1 30 lo,5 26 ld,1 32 ld",
    "1 26 mf,1 32 mf,1 26 lo,1 32 lo,4 27 lg,1 33 lg,1 27 li,1 33 li,1 27 ln,1 33 ln,3 2a ld",
    "1 36 ld,1 2a mf,1 36 mf,1 2a lo,1 36 lo,1 2b ld,1 37 ld,1 2b le,1 37 le,1 2b mf,1 37 mf",
    "1 2b lo,1 37 lo,1 2c mf,1 38 mf,1 2c lo,1 38 lo,3 2d lf,1 39 lf,1 2d lg,1 39 lg,1 2d li",
    "1 39 li,1 2d lm,1 39 lm,1 2d ln,1 39 ln,1 2d mg,1 39 mg,1 2f le,1 3b le,1 2h le,1 3d le",
    "1 2h lk,1 2i ld,1 3e ld,1 2i lj,1 3e lj,1 2i lo,1 3e lo,y 27 m3,1 33 m3,e 2d m3,1 39 m3",
    "t 1t lo,1 2p lo,1 21 lo,1 2x lo,1 27 lo,1 33 lo,1 2d lo,1 39 lo,1 64 lg,1 70 lg,1 64 ld",
    "1 70 ld,1 64 lo,1 70 lo,1 64 lc,1 70 lc,2 5g lg,1 6c lg,1 fa lg,1 fb lg,1 5i lg,1 6e lg",
    "3 1z lo,1 2v lo,1 23 lo,1 2z lo,1 27 mg,1 33 mg,1 dm lg,1 dn lg,1 c7 lo,1 ia lo,1 2y lo",
    "4 1z ld,1 2v ld,3 26 lc,1 32 lc,1 5h ld,1 6d ld,1 5i ld,1 6e ld,1 60 ld,1 6w ld,1 1t lr",
    "1 2p lr,1 1t lt,1 2p lt,1 1x lr,1 2t lr,1 1x lt,1 2t lt,1 21 lr,1 2x lr,1 21 lt,1 2x lt",
    "1 27 lr,1 33 lr,1 27 lt,1 33 lt,1 2a lr,1 36 lr,1 2a lt,1 36 lt,1 2d lr,1 39 lr,1 2d lt",
    "1 39 lt,1 2b me,1 37 me,1 2c me,1 38 me,3 20 lo,1 2w lo,7 1t lj,1 2p lj,1 1x mf,1 2t mf",
    "1 5y lg,1 6u lg,1 5x lg,1 6t lg,1 27 lj,1 33 lj,1 fi lg,1 fj lg,1 2h lg,1 3d lg,9e 4o ld",
    "1 pd ld,2 ph ld,1 pj ld,1 pl ld,2 pr ld,2 px ld,1 q1 ld,1 qy ld,q pl lk,1 px lk,1 q9 ld",
    "1 qd ld,1 qf ld,1 qh ld,1 qz ld,q qh lk,1 qt lk,1 qn ld,1 qt ld,1 qx ld,5 r6 ld,1 r6 lk",
    "18 t1 lc,1 t1 lk,2 sz ld,4 sm lk,5 t6 ld,1 t4 lc,1 tf li,b t4 li,w u0 li,n tx lc,1 tx lk",
    "2 tv ld,4 uu lk,5 u2 ld,1 u0 lc,1 ub li,o vo lr,1 vp lr,22 t2 li,1 ty li,e sw li,1 ts li",
    "1 sw lk,1 ts lk,3 t1 li,1 tx li,3 yg lk,1 yh lk,1 t2 lk,1 ty lk,1 t3 lk,1 tz lk,3 t4 lg",
    "1 u0 lg,1 t4 lk,1 u0 lk,1 ta lk,1 u6 lk,3 yw lk,1 yx lk,1 tp lk,1 ul lk,1 tf lg,1 ub lg",
    "1 tf lk,1 ub lk,1 tf ln,1 ub ln,1 tj lk,1 uf lk,3 tn lk,1 uj lk,89 17r 18z,1 17r 190",
    "1 18o 190,1 17r 191,1 18q 190,4a 1cl 190,2 1c1 190,h 1ci 190,gm 1t4 1to,8 1tc 1to,3 1tf 1to",
    "47 1xj 1xa,1 1xj 1xz,ak 287 28m,3 287 27y,1 287 28n,20 2aa 2c7,1i 2bq 2bi,1 2br 2bi",
    "1 2bq 2c7,3g 2fa 2fq,3c 2in 2j9,7 2iu 2j9,1 2iu 2ja,2 2iu 2iq,1 2iy 2j9,3j 2me 2m6,1 2mf 2m6",
    "1 2me 2mv,3y 2qh 2q2,2 2qh 2q7,1 2qk 2q2,1 2qh 2qn,g8 36t 372,25c 5c5 5dh,2 5c7 5dh",
    "2 5c9 5dh,2 5cb 5dh,2 5cd 5dh,4 5ch 5dh,15 5dm 5dh,2 5do 5dh,3 5dq 5dh,1 5dr 5dh,2 5du 5dh",
    "jh 1t md,1 2p md,1 1u lj,1 2q lj,1 1u mb,1 2q mb,1 1u mp,1 2q mp,1 5j ld,1 6f ld,1 1w lj",
    "1 2s lj,1 1w mb,1 2s mb,1 1w mp,1 2s mp,1 1w mf,1 2s mf,1 1w ml,1 2s ml,1 7m lc,1 7n lc",
    "1 7m ld,1 7n ld,1 1x ml,1 2t ml,1 1x mo,1 2t mo,1 fc li,1 fd li,1 1y lj,1 2u lj,1 1z lg",
    "1 2v lg,1 20 lj,1 2w lj,1 20 mb,1 2w mb,1 20 lk,1 2w lk,1 20 mf,1 2w mf,1 20 mm,1 2w mm",
    "1 21 mo,1 2x mo,1 5r ld,1 6n ld,1 23 ld,1 2z ld,1 23 mb,1 2z mb,1 23 mp,1 2z mp,1 24 mb",
    "1 30 mb,1 5yu lg,1 5yv lg,1 24 mp,1 30 mp,1 24 ml,1 30 ml,1 25 ld,1 31 ld,1 25 lj,1 31 lj",
    "1 25 mb,1 31 mb,1 26 lj,1 32 lj,1 26 mb,1 32 mb,1 26 mp,1 32 mp,1 26 ml,1 32 ml,1 5x ld",
    "1 6t ld,1 5x lk,1 6t lk,1 98 lc,1 99 lc,1 98 ld,1 99 ld,1 28 ld,1 34 ld,1 28 lj,1 34 lj",
    "1 2a lj,1 36 lj,1 2a mb,1 36 mb,1 5zu lg,1 5zv lg,1 2a mp,1 36 mp,1 2b lj,1 37 lj,1 2b mb",
    "1 37 mb,1 9m lj,1 9n lj,1 9s lj,1 9t lj,1 602 lj,1 603 lj,1 2c lj,1 38 lj,1 2c mb,1 38 mb",
    "1 2c mp,1 38 mp,1 2c ml,1 38 ml,1 2d mc,1 39 mc,1 2d mo,1 39 mo,1 2d ml,1 39 ml,1 a0 ld",
    "1 a1 ld,1 a2 lk,1 a3 lk,1 2e lf,1 3a lf,1 2e mb,1 3a mb,1 2f lc,1 3b lc,1 2f ld,1 3b ld",
    "1 2f lk,1 3b lk,1 2f lj,1 3b lj,1 2f mb,1 3b mb,1 2g lj,1 3c lj,1 2g lk,1 3c lk,1 2h lj",
    "1 3d lj,1 2i le,1 3e le,1 2i mb,1 3e mb,1 2i mp,1 3e mp,1 2w mp,1 38 lk,1 3b lm,1 3d lm",
    "2 an lj,5 1t mb,1 2p mb,1 1t ll,1 2p ll,1 5e ld,1 6a ld,1 5e lc,1 6a lc,1 5e ll,1 6a ll",
    "1 5e lf,1 6a lf,1 61s le,1 61t le,1 76 ld,1 77 ld,1 76 lc,1 77 lc,1 76 ll,1 77 ll,1 76 lf",
    "1 77 lf,1 61s li,1 61t li,1 1x mb,1 2t mb,1 1x ll,1 2t ll,1 1x lf,1 2t lf,1 5m ld,1 6i ld",
    "1 5m lc,1 6i lc,1 5m ll,1 6i ll,1 5m lf,1 6i lf,1 62g le,1 62h le,1 21 ll,1 2x ll,1 21 mb",
    "1 2x mb,1 27 mb,1 33 mb,1 27 ll,1 33 ll,1 5w ld,1 6s ld,1 5w lc,1 6s lc,1 5w ll,1 6s ll",
    "1 5w lf,1 6s lf,1 630 le,1 631 le,1 bk ld,1 bl ld,1 bk lc,1 bl lc,1 bk ll,1 bl ll,1 bk lf",
    "1 bl lf,1 bk mb,1 bl mb,1 2d mb,1 39 mb,1 2d ll,1 39 ll,1 bz ld,1 c0 ld,1 bz lc,1 c0 lc",
    "1 bz ll,1 c0 ll,1 bz lf,1 c0 lf,1 bz mb,1 c0 mb,1 2h lc,1 3d lc,1 2h mb,1 3d mb,1 2h ll",
    "1 3d ll,1 2h lf,1 3d lf,7 q9 lv,1 q9 lw,1 64g lc,1 64h lc,1 64g ld,1 64h ld,1 64g n6",
    "1 64h n6,1 pd lv,1 pd lw,1 64o lc,1 64p lc,1 64o ld,1 64p ld,1 64o n6,1 64p n6,1 qd lv",
    "1 qd lw,1 64w lc,1 64x lc,1 64w ld,1 64x ld,3 ph lv,1 ph lw,1 654 lc,1 655 lc,1 654 ld",
    "1 655 ld,3 qf lv,1 qf lw,1 65c lc,1 65d lc,1 65c ld,1 65d ld,1 65c n6,1 65d n6,1 pj lv",
    "1 pj lw,1 65k lc,1 65l lc,1 65k ld,1 65l ld,1 65k n6,1 65l n6,1 qh lv,1 qh lw,1 65s lc",
    "1 65t lc,1 65s ld,1 65t ld,1 65s n6,1 65t n6,1 pl lv,1 pl lw,1 660 lc,1 661 lc,1 660 ld",
    "1 661 ld,1 660 n6,1 661 n6,1 qn lv,1 qn lw,1 668 lc,1 669 lc,1 668 ld,1 669 ld,3 pr lv",
    "1 pr lw,1 66g lc,1 66h lc,1 66g ld,1 66h ld,3 qt lv,1 qt lw,1 66o lc,1 66p lc,1 66o ld",
    "1 66p ld,1 66o n6,1 66p n6,2 px lw,2 66x lc,2 66x ld,2 66x n6,1 qx lv,1 qx lw,1 674 lc",
    "1 675 lc,1 674 ld,1 675 ld,1 674 n6,1 675 n6,1 q1 lv,1 q1 lw,1 67c lc,1 67d lc,1 67c ld",
    "1 67d ld,1 67c n6,1 67d n6,1 q9 lc,2 qd lc,2 qf lc,2 qh lc,2 qn lc,2 qt lc,2 qx lc,4 64g n9",
    "1 64h n9,1 64i n9,1 64j n9,1 64k n9,1 64l n9,1 64m n9,1 64n n9,1 64o n9,1 64p n9,1 64q n9",
    "1 64r n9,1 64s n9,1 64t n9,1 64u n9,1 64v n9,1 65c n9,1 65d n9,1 65e n9,1 65f n9,1 65g n9",
    "1 65h n9,1 65i n9,1 65j n9,1 65k n9,1 65l n9,1 65m n9,1 65n n9,1 65o n9,1 65p n9,1 65q n9",
    "1 65r n9,1 674 n9,1 675 n9,1 676 n9,1 677 n9,1 678 n9,1 679 n9,1 67a n9,1 67b n9,1 67c n9",
    "1 67d n9,1 67e n9,1 67f n9,1 67g n9,1 67h n9,1 67i n9,1 67j n9,1 q9 li,1 q9 lg,1 67k n9",
    "1 q9 n9,1 q4 n9,2 q9 n6,1 69i n9,1 pd li,1 pd lg,1 pd lc,2 pd n9,5 4o n6,1 67o n9,1 qf n9",
    "1 q6 n9,2 qf n6,1 69y n9,1 ph lc,2 pj lc,2 pj n9,1 69r lc,1 69r ld,1 69r n6,1 qh li,1 qh lg",
    "1 qy lc,4 qh n6,1 qy n6,1 pl li,1 pl lg,1 pl lc,3 6bi lc,1 6bi ld,1 6bi n6,1 qt li,1 qt lg",
    "1 qz lc,2 qp lv,1 qp lw,1 qt n6,1 qz n6,1 px li,1 px lg,1 px lc,2 pt lw,1 4o lc,5 67w n9",
    "1 qx n9,1 r2 n9,2 qx n6,1 6ba n9,1 pr lc,2 q1 lc,2 q1 n9,bi 6mo mw,1 6mq mw,j 6ms mw",
    "v 6og mw,1 6ok mw,1 6oi mw,1h 6pv mw,5 6q0 mw,3 6q3 mw,o 6qr mw,2 6qt mw,r 6rg mw,3 6rn mw",
    "3 6rp mw,2 6rs mw,n 1p mw,2 6sh mw,b 6rx mw,1 1o mw,1 1q mw,1 6sk mw,1 6sl mw,3 6sy mw",
    "1 6sz mw,3 6t2 mw,1 6t3 mw,7 6t6 mw,1 6t7 mw,3 6te mw,1 6tf mw,3 6ti mw,1 6tj mw,z 6ua mw",
    "1 6ug mw,1 6uh mw,1 6uj mw,1d 6t8 mw,1 6t9 mw,1 6tt mw,1 6tu mw,7 6uq mw,1 6ur mw,1 6us mw",
    "1 6ut mw,2n3 9jf 9ll,2 9jh 9ll,2 9jj 9ll,2 9jl 9ll,2 9jn 9ll,2 9jp 9ll,2 9jr 9ll,2 9jt 9ll",
    "2 9jv 9ll,2 9jx 9ll,2 9jz 9ll,2 9k1 9ll,3 9k4 9ll,2 9k6 9ll,2 9k8 9ll,7 9kf 9ll,1 9kf 9lm",
    "2 9ki 9ll,1 9ki 9lm,2 9kl 9ll,1 9kl 9lm,2 9ko 9ll,1 9ko 9lm,2 9kr 9ll,1 9kr 9lm,n 9ja 9ll",
    "a 9lp 9ll,e 9m3 9ll,2 9m5 9ll,2 9m7 9ll,2 9m9 9ll,2 9mb 9ll,2 9md 9ll,2 9mf 9ll,2 9mh 9ll",
    "2 9mj 9ll,2 9ml 9ll,2 9mn 9ll,2 9mp 9ll,3 9ms 9ll,2 9mu 9ll,2 9mw 9ll,7 9n3 9ll,1 9n3 9lm",
    "2 9n6 9ll,1 9n6 9lm,2 9n9 9ll,1 9n9 9lm,2 9nc 9ll,1 9nc 9lm,2 9nf 9ll,1 9nf 9lm,n 9ly 9ll",
    "3 9nz 9ll,1 9o0 9ll,1 9o1 9ll,1 9o2 9ll,4 9od 9ll,1864 1huh 1hve,2 1huj 1hve,f 1hut 1hve",
    "3n 1hyp 1hyf,1 1hyq 1hyf,f0 1idj 1ida,1 1idj 1idz,a7 1int 1inu,1 1int 1ink,2 1int 1inx",
    "70 1iuw 1iun,1 1iux 1iun,ot 1jjp 1jjk"])

/-- Runs of marks that stand in one place: the first one, their number and the class of the place. -/
def classRows : List (List Nat) := rows (",".intercalate [
    "lc l 6e,lx 1 6g,ly 4 64,m2 1 6g,m3 1 60,m4 5 64,m9 2 5m,mb 4 64,mf 2 5m,mh b 64,ms 5 1",
    "mx 4 64,n1 8 6e,n9 1 6o,na 1 6e,nb 3 64,ne 3 6e,nh 2 64,nk 3 6e,nn 4 64,nr 1 6e,ns 1 6g",
    "nt 2 64,nv 1 6e,nw 1 6h,nx 2 6i,nz 1 6h,o0 2 6i,o2 1 6h,o3 d 6e,w3 5 6e,13l 1 64,13m 4 6e",
    "13q 1 64,13r 3 6e,13u 1 66,13v 1 64,13w 6 6e,142 6 64,148 2 6e,14a 1 64,14b 2 6e,14d 1 66",
    "14e 1 6c,14f 1 6e,14g 1 a,14h 1 b,14i 1 c,14j 1 d,14k 1 e,14l 1 f,14m 1 g,14n 1 h,14o 1 i",
    "14p 2 j,14r 1 k,14s 1 l,14t 1 m,14v 1 n,14x 1 o,14y 1 p,150 1 6e,151 1 64,153 1 i,174 8 6e",
    "17c 1 u,17d 1 v,17e 1 w,18r 1 r,18s 1 s,18t 1 t,18u 1 u,18v 1 v,18w 1 w,18x 1 x,18y 1 y",
    "18z 2 6e,191 2 64,193 5 6e,198 1 64,199 2 6e,19b 1 64,19s 1 z,1cm 7 6e,1cv 4 6e,1cz 1 64",
    "1d0 1 6e,1d3 2 6e,1d6 1 64,1d7 2 6e,1d9 1 64,1e9 1 10,1f4 1 6e,1f5 1 64,1f6 2 6e,1f8 1 64",
    "1f9 2 6e,1fb 3 64,1fe 1 6e,1ff 2 64,1fh 1 6e,1fi 1 64,1fj 3 6e,1fm 1 64,1fn 1 6e,1fo 1 64",
    "1fp 1 6e,1fq 1 64,1fr 1 6e,1fs 1 64,1ft 2 6e,1kb 7 6e,1ki 1 64,1kj 1 6e,1kt 1 64,1li 4 6e",
    "1ln 9 6e,1lx 3 6e,1m1 5 6e,1nd 3 64,1p4 1 6e,1p5 3 64,1p8 4 6e,1qi 5 6e,1qn 5 64,1qs e 6e",
    "1r7 1 64,1r8 2 6e,1ra 1 64,1rb 2 6e,1rd 1 64,1re 3 6e,1rh 3 64,1rk 1 r,1rl 1 s,1rm 1 t",
    "1rn 3 6e,1rq 1 64,1rr 2 6e,1rt 2 64,1rv 5 6e,1to 1 7,1u5 1 9,1u9 1 6e,1ua 1 64,1ub 2 6e",
    "1x8 1 7,1xp 1 9,1z2 1 6e,20s 1 7,219 1 9,24c 1 7,24t 1 9,27w 1 7,28d 1 9,2bx 1 9,2f0 1 7",
    "2fh 1 9,2fp 1 2c,2fq 1 2j,2ik 1 7,2j1 1 9,2m3 2 9,2ml 1 9,2q2 1 9,2t4 2 2v,2t6 1 9,2tk 4 2z",
    "2wo 2 3a,2wq 1 9,2x4 4 3e,2zc 2 64,305 1 64,307 1 64,309 1 60,31t 1 3l,31u 1 3m,31w 1 3o",
    "322 4 3m,328 1 3m,32a 2 6e,32c 1 9,32e 2 6e,346 1 64,37b 1 7,37d 2 9,39p 1 64,3tp 3 6e",
    "4k4 2 9,4l0 1 9,4pe 1 9,4pp 1 6e,4vd 1 6c,4zd 1 66,4ze 1 6e,4zf 1 64,55j 1 6e,55k 1 64",
    "57k 1 9,585 8 6e,58f 1 64,59s 5 6e,59x 6 64,5a3 2 6e,5a5 1 64,5a7 2 64,5a9 2 6e,5ab 2 64",
    "5ad 5 6e,5ai 1 64,5aj 4 6e,5dg 1 7,5dw 1 9,5ez 1 6e,5f0 1 64,5f1 7 6e,5gq 2 9,5ie 1 7",
    "5iq 2 9,5kn 1 7,5ow 3 6e,5p0 1 1,5p1 5 64,5p6 2 6e,5p8 4 64,5pc 1 6e,5pe 7 1,5pp 1 64",
    "5pw 1 6e,5q0 2 6e,5vk 2 6e,5vm 1 64,5vn 7 6e,5vu 1 64,5vv 2 6e,5vx 1 6i,5vy 1 5y,5vz 1 64",
    "5w0 1 5m,5w1 11 6e,5x2 1 6g,5x3 2 6c,5x5 1 64,5x6 1 62,5x7 1 6e,5x8 1 6h,5x9 1 64,5xa 1 6e",
    "5xb 1 64,6hc 2 6e,6he 2 1,6hg 4 6e,6hk 3 1,6hn 2 6e,6ht 1 6e,6hx 2 1,6hz 1 6e,6i0 1 64",
    "6i1 1 6e,6i2 2 1,6i4 4 64,6i8 1 6e,8vj 3 6e,8zj 1 9,928 w 6e,9ii 1 62,9ij 1 6c,9ik 1 6g",
    "9il 1 66,9im 2 68,9ll 2 8,wvj 1 6e,wvo a 6e,wwu 2 6e,wz4 2 6e,x6u 1 9,x7w 1 9,xc4 1 9",
    "xcw i 6e,xez 3 64,xg3 1 9,xir 1 7,xj4 1 9,xps 1 6e,xpu 2 6e,xpw 1 64,xpz 2 6e,xq6 2 6e",
    "xq9 1 6e,xrq 1 9,xyl 1 9,1dlq 1 q,1e74 7 6e,1e7b 7 64,1e7i 2 6e,1eyl 1 64,1f4w 1 64",
    "1f92 5 6e,1gjx 1 64,1gjz 1 6e,1gl4 1 6e,1gl5 1 1,1gl6 1 64,1glb 1 9,1gpx 1 6e,1gpy 1 64",
    "1h5w 4 6e,1hgr 2 6e,1hj1 3 64,1hl2 2 64,1hl4 3 6e,1hl7 1 64,1hl8 1 6e,1hl9 4 64,1hmq 1 6e",
    "1hmr 1 64,1hms 1 6e,1hmt 1 64,1hs6 1 9,1htc 1 9,1htr 1 9,1hvd 1 9,1hve 1 7,1hxc 3 6e",
    "1hyr 2 9,1i0j 1 7,1i2o 1 9,1i2y 1 7,1i5x 1 9,1i5y 1 7,1iax 1 7,1iay 1 9,1id7 2 7,1idp 1 9",
    "1iee 7 6e,1ieo 5 6e,1iki 1 9,1ikm 1 7,1ila 1 6e,1io2 1 9,1io3 1 7,1iv3 1 9,1iv4 1 7,1iyn 1 9",
    "1j1y 1 9,1j1z 1 7,1j57 1 9,1jcp 1 9,1jcq 1 7,1jjx 2 9,1jk3 1 7,1jog 1 9,1jqs 1 9,1jrb 1 9",
    "1jtl 1 9,1k5b 1 9,1kci 1 7,1kck 2 9,1kev 1 9,1kqp 2 9,1zow 5 1,1zqo 7 6e,20og 2 6,2ftq 1 1",
    "2jxh 2 60,2jxj 3 1,2jxp 1 6a,2jxq 5 60,2jy3 8 64,2jyd 5 6e,2jyi 2 64,2jze 4 6e,2k3m 3 6e",
    "2mtc 7 6e,2mtk h 6e,2mu3 7 6e,2mub 2 6e,2mue 5 6e,2mxb 1 6e,2n1s 7 6e,2nce 1 6e,2ne4 4 6e",
    "2nsc 2 6g,2nse 1 64,2nsf 1 6e,2ok0 7 64,2on8 6 6e,2one 1 7"])

end Stimulus.Text
