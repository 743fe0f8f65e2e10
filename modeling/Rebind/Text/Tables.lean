import Rebind.Text.Condensed
/-!
The larger tables of the character set, condensed: rows of numbers, with an empty row after each table. They are, by
number, the spellings (0), marks (1) and pairs (2) of the normal form, the starts of identifiers (3), letters (4), the
parts of identifiers (5), printable characters (6) and numerals (7).
-/
namespace Rebind.Text.Tables

def condensed : String :=
"gR7>qTOE3YcX2UOKrgcFB![i%1A(zhWL^G0E&t>mWod>jFO;Ik1A,g.eM(t=*6;i0FEwNA%Z5|gpjHFf;^aa4BK97nk7W)F7aNLYH~ytS_Q4lv5dzzbx:8,
j0FU%BJ(l%]N]_~)|Q;3)OI>VEm6o7Z<h*OO!ng6oud8~^vDXohg!Onl+MzpBLuyVT356OX%vMIfy]?AQJhOR^=2qp(3HAdyvt$5y6,0N8=2iUi[?DEp;x^
|[.oDkh4(qU4K:ZuvX_N:N!Qf0I&XSe$H|l.FD3<ZFJ9U|nEb*A)66N~lc3xo^29=h4Z6818V+F|5.;P)uncESv[X~Eo<q8Vr=]S%~C<+U9V&<iSH=p!kMU
0*jD3hcLy1ZDRn3ay7FZQdl4u[CDEBo=hS,,A2.Lv:1]!N6NK[ctc^gS^$ss2*5R_=HS>uN)2b[J_U6sd&GJ;%Po]3I?2Zd4ZEW7aB,7dv7Mi3R.VX|V98?
ZAAwq+BHxaAmj6f%*4Oi4x&u=fr<Xsd!I6xa&=*)QIR3Yv$n7Y7,u=9ufy,Q.D;Np:$7C~g)eySB9,b:xCO9okBx,_bin)_l4gOZJ(AT^C<&Jn8vvh^Csjz
G.L|2n&44~y4fX~QUN5iQ=tRDokG)cCCz(^_y5.tV+g&~Fn|:]uN]LJY+D2xI)_M,Dr7ubG;LR(R:rg88lXZmjkj[O$wK[)WW0[P$UIZo$p&vQLUxJk>AT>
HG[<!Am8jX2e6pX~Q%%hEO%e?Ie5[]G1$Ur6tX?bx$XLK(x8rFsg;iWxQgulJGeFyHqnO&*P$of_pkKp5n|sdaQ^^t>O*$sQ]Z^01860.BDglj^qEI(?MZx
JyDa_J]y*$tDRs<1s,gKwvc)_l5sw!mHEXkswvn|^3o%Y*ubq3x^E]xMf<QY5xq1l_pfV^cFz[^7Z4>,4ysNUoM(FfLnep4mBgUZ0MGhe>k_$>*(s=jht,k
H:T:v6rT46GX3n78e5iCnA!9UNmFhu*s7DT0YQc7VTX;|C_pG9mYG8KQkxqSKR]Y4RRXV><[W$>wL_p_x;T?L>u:2w,5E2l<0&EutFS<9BfeRuNO2Ua.c_*
:(Yxi1!vS<!|mA)|Bhg$Sd7L4&fE)cwEYJHqpe7xa0m.BR|UC]%n<Kr>,Mz4+X)y4V804bd%=qN[QGh8Y=NykIzGG1ruVLa8d|wL.qBLu!pfW(kKx|qdg(R
;dSJVX^%duBR;j*J[HTsS]G<7D.Q),2H|[S.3]<4u%izt6DL9wuZe!$K7cwPMK9!ViHs.[5JVKK?X:md4(!EgC2EBH,MkYDzp(=yV!p4XsK8S+DuvG)H[Me
i<3llDWnC;ge!j(BKE5S~_Dayo~DZvq,7$lvAR|=TPSzWg1:PhIus(3fCkCL28h*j[;.7;l6DN]W+<nF;F)ul<1XR&:eE(Q0dF:A^]644va|3qJut,3roXb
UU&S5]zLW<y^ow=Y6w.^n>AD7soZ:_)M!*<aldzN;!?<7:yWw3xHTB)^TLNd,*]RLAXkxT^SJj:fRe3lB(]LM^B|fR|.A|*uP+9q%4!:9M~Q~!0mz|&RysW
JeTr0:rNuXAc=?8)|]b;m7H4>V4USPW*0kkoLtrYtnyCpQcVE;S|)chL.OR._V~c8L7&RFc*pUho<f:NUN!XL<S&eEm+2p$!Z>OC]PiO(k5(^(W|U]5TmUB
Sd_9^Gg>(C6KcJCOy*l6emMAlYtszQ:~7j)nt(N^[41a.,[PqxJqGG5q84jsJud_Y~GBY*YpLY7th$xb4(8<S59.Dacz9*6o387=>*p2m^HA*Bet^,umdRu
%ZPL_%d+YgPDA~)Q8<K+cdfZ~6vtA>g<!wQ6)<UL%t!Fr~IX4QH(MEaJk:6|VT!Mj|Is%g,_~t_MHn7UMA0|kM[U+mtT05H$)(Nzd!x?K,W0Awrr9O_BNvC
;hK%OEq[K):2zzKz%>Lbk6.?I*[6XU7ZB<03T^NwpoN*la<Sy7KlLa[vbby77B*!ZZH$zghz>fPIjGNSrgR67ieMe[DA&F[kn:wd1E[yHu[(aFN]>=U7KLN
JZJ=dEnQ(&inPNupAupnGw?SUh?&%BI73Voc5yzL6V1&WErq|1r(9x.|.:.A,D5;vu[|wDqb!eX:c,M!(CT;YfkuyDT++Js+nHjg2zJ(bj,gU0*OOsOKY4&
Y]4DMFW+2MCJD=?90r]Jn?qJay)oDz[,ZPq;>iHs&.P,ygn)v,3OvufM(gzcN$i]WYhbu>YSd;N=<6vNpu!,WG,8iQe~(O6>66CGbjzw0*k.~U~O?nVCSP0
!b7Oy6f_*P;qaipe<j.TtbZOGdAp[sz|py&d=f!hA|sNUcw=k3&~BLeE(k,p=$OV8HG183Bl(_k?Cf1D+Xu^>tSDAKbrqmd9vrvW9nqHswqFdv<<mAO|[n1
c;PPN,L>>?gtQ+Y(vmE]hNH5NEH)V31G6gsv:K1XR5*oIydW86gNhe*(m>=gOkm:P9+w~)7zj]PF:LD2QKNqgr51o?Xy2C&k|CZNMo<(QM266$q8Sq)&d^s
hLxCI_r=xBgEkb.c*~K)ZpRCQftI~+9q(jhW[s3rKRy5[ahx,6kwZV,zbSl=VBS4zw>8l!Fg31YLuw0lJXHcl<vDUf1Bp_^du4TRF|7G?_)oaM$+TRuyxiQ
,ylDXPJzrmgWFy[ielkxo<9kvPDEjB:HS$]Ee>gIRWToz2keXP)]0JPnrQtdE=8Hk4)gf*g)wqk|j6MC^2bu!jsq+Z91*t*L|4m8zw]P2Qens:&_b9HM;=9
On3%gPO[s~<!u_tYsSTjRXBI8aynDbHR[ly_5y|.dU4n2*NP6FIvxP|$QZf4Nh^!DT5R6da~8BC:m:n^gNhj~U(zmr6Wi9q.t5RL_Ni3z=>XAgB~D1<v!36
DANAS6)Cj;Zuex=EQ7?x>K4b3jDa5RJkE|M++CGBk$.6IBIC31?z0&eYnSo]RTONZNNkPi;oxQz]Fk[]GIa+_1aBZmuPz^Ax|P0vD$GyoYGc;69GbRYRlKV
DsweTQ_5Q_bB](Lll)G[_PKmL%iNc?_;mU!bG9~<ygLbTwqQUJxMy;62?LCgeBtZfKFblIpr_C($_RXaf22s*~0,Q.a,99G&qT_Q3o8Qw)aJjU<!DDfYHCo
rA0o]q7;IyGNL[9UMbGnN7&J6AlJ=cPM1:WEkRrO[UyyLt]Z+x0|qDC=;LHVR7Om:43,^l9DumBuRc]9Q4+K5sePz8K)mDZL:IQ2KHdnW8k2iIUYm&r<Ce1
52[u_ex:YaAsH)D!kms^8_+5MECnda=nU^(Sj)vO=93~.]mewtObv+sqL)kLBzKAj)!^.R[Jgk)o(6e?,|I6czb7I1+RZJ,ptTtaYDio2Y1&ksh(?S$hnAr
YN2l)ZPMBJM)fauO$O$OxCs.>6M$=^7Nj^Q|nX_ugm=A+::B7I:lWspaSFAhPViTLi_!pK(4VnH!JJ[1&<5yLew?JygG~eJ6eeN]OXVDcU)>4<3jL]PanTb
s=s%vx?uZ6V,F*!M!VVbaREtXwNhukqBwiz35TZiX]gE!jg_D<0n%FDyFg]V!x$mTXpS35cD,yHvd5hD~TH_Dd?D?%PT.+CN7RGvHKHclFlt+V0;1b%=fDa
3p%,mQzsdCycf0XhKb!aPEO.tKvbaxIQo!5I>h<$URl8bJGDz]0jr&y)~ULfd,8J3Z9?yg~Y|U&m_[USsXuo&cw28T,Nanh&xK|L7+:x?c(PJDtXB$bvA[T
QtV4Tw[M*G0atpg=8tpB,$<$;QOI5uIYddE%mnF%UZ:.vjnLu|AnK[oZ!(MpMCUDG%,+~(loG8gSMxLgZ3_Pfl4o,[a1EInqjYKZ]i(.B**2FrT3_<$!sjS
)ODVgt3KI[KIrUOAAwiv)sg+.7BXR~0x)XD||Se<v0Rp+CgueqDp:7<o=rzSw~bRj9LGn7D].Tw+;NK;?WmvtsDta$|obbq+FAb&WDpCt|s[6z5WGujPgaz
qs.tmijJ3VTYgN2BiGGqsa(Q0)EhW~?y^^1E63|^rqRAlgrbhbsNm+?dvek_,a;T83dfPV:mE1Y[)Keul(<:KdVAO|i^d;0lpB!wyBiDh~C?TO)*wJ!(NWj
bk!eaBs:!zv,$Ys[k8v;[w_[<A=T3$P%?V|(XevP$tPc27Uq6;bV^Qj?K]x,.KxM~:F)JVL2<C!RyU]7ae&):)qw&5dUeu*[WIeVJCC|2_GLZg7k_Uqahyc
,EDi_MChDHel%>x|obgMSuZ>QKf+*S3IWYRMH)>m<(P2~Om<Gkl~;*(Soomp9$HWs221QuI[k)eW0S=bw&8JC.41bMxKR|~[L5TT!rwaJ)e8u+Nca1e~i+[
>gtn*18o49gbazLy(wcd$_G!v*c]63t2M(t^gfm_FAKT,>U1PIRFQNW^XsVG9~qmSf%80D_(auJ0[oruR&IFJFfif|jV]s[ozz6ULl&zUL1H9&1(GUr(z0L
oF[)U2uOy!Ns$;Dw0D;*]2Ef)T*6S5IrIcMZFBJo=Rv7GXSKSX:<hG>dAWq=4<s&c=sRR+za~q7+>eIHsPfj6vkQ+BQPQtQxMPvg[qM;L[pcsCm4DiQW)Vy
kQbDUURE<EAk|+zCsZj&ebh|(np<wnuZOA||.V,e$oltND!TsDAGK;<CI[H4L9F7yJ1K,sk&oJyks]cvQYRioc9q|G:uwaAe[X^aqmPxb,a0^GpEDH[n%04
1Li4~!V4Cb5yih01.q%lFx&~oU?C:G&VZMuYrK=YVQxy0oY3Jo~Dpc?+Q*cDVa1<o,smJH%1Qu27;v5u)Y1fW^(iz7V%WCGm+,5u|w^Szz~)^SVXtDE;W(5
<y3nMrjWQ$N6pl5y9[nTxv!Hl](1ccT%i=Y=+;wMQaH_PM;R0cTcMk!d*jsFAxSMzi6SWwh?3<Rx=VAeu&n2B$cM5NGST9p5s&)2qwK(.Ciy&srh!bXQF|,
_p~hqjpnUL3dp)AkIGGvoY(r<Ix=m)Uju]OT$(xAL[Tx,XSf+ur8.~D9x7D:hti^tilx413rINqZT);^rDKTsCj9!lVYYOy<Ql|H5B8!^R9[o,nY;tF])FH
w~ZRhv;7,emymRMwTJ>d$Da:F2_s^jUQqu:=uA(=?vq02)2^>nFP+YomN<wE6:9+b<$wQN>1PHk2Hoa5l<Focq;?>3sK1DfYzB|:1uc:~NVJYqHdZ78$(aw
=*<vh>F%x7jh],4)_S6<(r8C&BC|.r$rEOn2Y2ItHhjZNhc^MGM9_Vq_eVw:GJ+F1yNpeZ$1zFBSyrJ!*?K!)yb9F5oo$NDV=<JY+e$,B!%*m~jdi&qJ)|q
n,5[r;9BYhQm(JK+Nmr9yyI,IZz))>I)HuJpp4zPBb~KJIZX):IU9fj2&oG&ox1tt.]]E:sjN]0Y]5hf32Mp=5RZS*s?;os^WEB:p$zNA2(n&2WdQ1rSkJy
E*gt0t:!IJ4h9uo2F$bytIv;)ux[OzQR,mAV^hXcP>Pw0v%fYx)JkXSP~t_vkSB70N;,_H(U,i+~J%Rw[x%<2U,~e7JhJpi&ZL.YA$0I<mYHa[+E!bM(7sT
2!,]sU,XBNW?DYKKW&p>|1UlNz^I0hRQq%xr5;71McOgd+)KC<4qk+)rMfdy<jC^mK_RU1Xu7Bav>34clMKhAy42CVyxyh|jNHD9gBB!C|q$o_8AFPBsJW!
FEc809!&PCs072V|<y(ltBR4l4Y0ECNO_G2$=Uw2Y[FJe4+E4+TsPY5,Q0vNy+%N&mVaWha50~B0%o57fkM2,|=*o!T$4WdZ!D7g12UlR>Frlk^Q,4a]t:V
EWWty;%Hz2rMmkZoTvP1Ml8NGs+_scQn!Dw>cICCxklcx0mMK+*~N6woky^N6M:<MDQ=&$N?l729|aLvwSUI%>wV)Snb5I0*PV[W8T$_yR.m)bsa2d^ZhBZ
inPxdF4j^T^>ATI.FT~ej7yMbLVGJ&XQivJ!Gsor1.>K8a7pBulWO=DbE$9VksDc&3<fil,tar2wk~(fO2TA;xxezWZq>;6v!!J?t7]W2T%(.l,8T9B*6=G
nQ]raH*quu=))0s5V,V_MwFjwunU(,!V?YkC[B:1tXvx~L^lK;6v3Z][c:Yn2Hr7.M%_)a00e(J4.yD&fI):T3y)eS1aF0&B6hyxipEkF0Vl|1uh8[&~gd^
?iRY^^%&IT!sqAN*$>lzl*ho>XnmkPJ3n+NL^ay*n0:5Lq5dq$ME%EGs0fzrkuOa<TZnfw)D;5Hz!d!d|Y!=(2,<rbeJ$jw5T<Gfh[:7T[iz4a7xXkixS*i
P)!%6!XNVM%OqPg8kC954UvH_BN^qBuUA|R>UO0ABkeYs^pk!zQ$u%8o)?XtS1Z2A8T,p3JWPKTFu;T?3ir+d=f2.HKc.S:|:!.rTsmx&T;2%nEbaK[XgqE
S&1uhny]*|4c8v:wP8KDCcIVGTk(DQ_<[%]L?3E+Flw_Qqa?DXPqirte05z8bWa_V)l=nNaH9REN1n=4NiTJ_VZDOa0e$c14wc)a7|(T8|JmyN<!Bv)x7Z>
vr6?qLVA.CIJuL+s4FW$v%5>JI:mT7J4!0,+$Bx03FQbJJQW93l$z*3kvOm9S?pVaOl3$sp=;?~B=Sj:b1hX*:NLH6RFgVmGa3x%^sZe2!74AZ8nwMw<pC1
hJ=)L(+TSRQL35?;*^[lqwnn;[!JMmPpoIwez0T1S_f6K+9clqq7dTWw?$H$~?bVKhsAWXu^|KLQWWHVduj:120VQdu3Ct!N(fzyueRpXRwA!x(x]qI4oE,
3yz8[0..4b?;XE0tJjv(B50zZN|1n1d867ppo7W1^n,&ItX:EtJxg,8nddS|kN(QUSCm~>f:A1%F0Fghh=rWgP~a6zq>K)(?uqhCXC,*BP3d!2e]deBT5^M
:qUhb3$?gu0zGAl5HweWyzyc3=!=oHnWGQ[Kx|:vENjXCCG;c_D4jcQo+k%>~d,G>xG._(O>,[.V=U$uBD4AbZ|[&6h<F8kaHvcMXxy?q|tr5x=h9yO$ge^
1.IPD?4S1GBA*6QiHMH<neQARHn;F1d9nE8cFe?pfCE])?l:(n>>]l<5KSlUGn^u.LDvi4xawW44k[+Wy:ddBsJ$Ms>,*EL(2;lDe^E<o|0FKbKd~]k0UpS
8[B8HEGwgPrYwvC+%dpsaDmExXT;!FrWp[%mq;e^k8x+Jnoyhu,um;^XOz%D=7mOSjp5P2S3a>?3|H_cG.~pu_g.,K:v2K>s=NY7ca=4S&txPyXFm,9W]Pg
uLgTatr8<Cj(fvc1QNO7qh7Ym=jl%*=h1jE.wFIl$ouZgOYl0(x[mlb0~$IeL|NOT:zl8:<2U=;Ew|xWX.]__2LI7I0!l1=[4B4HHPdzM;ZI.lhLB>=h*K3
EwNzhgbdy.!7OtgoC<yjLpUt]Ts!1V+D:0eHP=U36cQxs30FfGT>rJx~VNb;8Urg0d7$T4Dw1N+l:,VhGEv&s|Lo7UdNL3j[nhviB|xz~[o7UOU4aMySt7I
:pE%*r1h;>ej?G]dpuA2b?BB]Le>f4T=5QrfZ.Fj6:uK08Xy7%H&Z9$o9DQ~UFl.PH[&CE2_]B+U1b~&PCFb>dt:k+7;1V4)NJ6o&efEyL.]7>~H0?pykUF
uhoJ4$sNsUAQ1yWO6%P2qVHUyrlb;%(uPiO7WFy?<Hnh0]dwp~!%:7pqujIKevlyh*xWL;l4O=,k$%1DcQ?3X!NtGkI.4;wYW=)hFa[I_<^6.hnw<5jlv$j
CYzc&TVico>?1&|n0>9z=<~6p1~]CE2Jd5C=nkF5lqW6Pl%$XI,,;oBPVg!(qJRQ+RTey~L[mbdw:wLo?6h08a$RkApjn2.|,$>1LuzRtj3k6pMa|:s~Q~A
HBs|;(iFfV]l;ZRV!*.>bnr:2sNhWTFXnl!Jl;C^uXCaAR]AGZJdeN~eU~?NsNV9!mm39NqL)ZYlyW%,:]_x0eb&IziOR>G$$T;mh]B:zN9aBrBS%?>j*8(
>y?YnbjGk1D~n?!YbA,t%!+g9*|bd;g7O_37?QP%f~|n8n>R,%a9fr&%aIf~oxchT7<r:Hc2d[Nptko5dmL^S?qbJ=67HRv:c,Oz(Q6su.]_4]drt$T0rk_
DhvMT3^ldC4e+%dL<DE+))M[wXLZ*p^D5dym0QaqS5jLZUTjwfW~KXhVjDWeN0$>|yn%r%L8AlSlKyO7)x*^JpPm%Ed~4~_tcwbe+$>miA,EZ_?(uilTr.v
2?YR%fh$s:xi31)GH&YzaUD^]Ept5Li*8Q^vVBTT.%.NWA<nS!PFMaN**)VhQXY56_[b%&0[9H&S|p5*54292uPeaBwXQgHE:QC(nUl+oC_C*?+*K=sL&TE
B|$]$=C+~SD9jREQftKTPma*>Dlx_vO06O]s%zfiw;oIP>e+!R2n0iIfWA4_FA8,iGE:FqrU5KEPJxE&40_<$Nfw,2RJ)HW23DSEky?JZijSym|IEouyH.S
biK5Zm]$%mwXK.>=nYd6[]Xds]q:,7%]gH3s=gQAo)OXGU&b5V;Y|;m+?.glS<!.e9!1|%W6p0.iy)SP90KxkjPwl6pje^i6xxg!JjXS2~|yZ=4N.I%(ul)
aSl.TMFC(W86yEt+^?L0IZ;u9JqIlEN3$qe<6O2y(3uN)e=p.I+)f|N$lR:Y6B0?T*h,>.&(VT|qcxF&+_rPdvdZNT0wh,d3$Rj]9T>4W290t]lN|07SI>t
u&X~nZ~vuz!s2Sf6[!1IC:Gk_Uj5+^Hto39~&)2H1!~?I:6>=n1K?>gee;N0R7^YZ]WoyB_7a(xkS;?Hi+:8JT,v$*Awfy|)Eqkynt_wc1gEdrNJ1OJbL2J
5X)7KxXbe^G;;uVf1&;]+cLnkgtW+GElx!ne(yVhrQ5TXBrGdC=6%pg~=bQ6Yrt8<oUIkt]yzfO5KX%=3]a|B_,bMHPWN3g~.pBT~XtA)aB>=v,Sv[c|+vP
R~WE0M9zzqG<ja0snP+l*nc*B657zb5BktHN)oReX7wAz:1RNi:<NxKf~!wsR*.8n8PecK,h~E.NdRDdLRy6yI9J_gKsdwQdSmH~V+Li[l5zjYuyDxhS(%o
aqfPf9cat*eVwxD>MOw1Zsu6SH&latV*75!pCh2ZY%St]Ka]YSklew5KyvimNOuFfN$OeIn~HtPJZs+l8*E;9UsMClHn~M=a9lA|o89$0t^zfeQi&aDzIjF
8Oe[rQ0AL:|~s?yon33=y6]H9K&;zt0_V$(sYyWI[zDEBe[|jg+aGAyBWzfEA7ZU&w[R^f97XfZTIq.TLt$]p2hwCnp7~~iZtY)SBei0Y;ur,|ruT[Pua(:
q&Dg+5QCdvP4s:|ma>7GRlbid8]*K[KB5c8Mb$6T7XQhMUE?~Fj,%hr=1+2R]14y(Kvnl1G~*CD?1d*mk%INBxK^qMZr7mZY6v_iyYazP1Qgl(t2O4|omN0
?FvZ?*&?u9i=>DIo[rq0~(Vd.S[[8$h|+NfgoyBl7f0%kr]$g1K,s.h[AS4Ht7r*Gxth;(L!DQ%Cv3xdMODjQE09g8.xM<o%GaI=k_B%7B?5DZ:(;Lc^M3n
z+)ZYQRQF~fBuw*x=$hdd<SUHwAAsV2iPGB_LEdx2ng6Y|[tRpJq^2Y8Ov6x:JMlbC0o:9p],K&KKnnE2z|*r)CD4&2y*bQT&y$Nch=Ypbq|9AG_P~V&fAi
CVAwRa52KUBn<pv$olz;5;y=XSzI^I6bJ$M~vU_HNpI?_pzC1iKNG,<6%y~l!kbJ3$)gCo~lK6m><UvF1SQ]SPWAg,6zIg+3hoC&1)rn)*HTG>Qf31ab(d[
%bqYfYV&;h~t&E,*<lDI%(e&M[W=a;^;3[wt0*;SQI5C>odu;RR=mscUU.,K6OQ0l%![cVQ89q$qf+wZ4C(Gv0q:Rs$mBs7QFe^9%:S)MnI9oWq[I8KYAt8
tJ<Kj~^qtZ!VIY6Ti<$?:c6P[6TvZwUX;G~$Z6HCab,|+y,X,_3*UHe_qOK&:1R&wkbhgU[v7+]j8ZpWs^G8?$KaKlj_weiEK4hK^5:HX(qpr5Y62~F~F>i
GP>!C3wU>nsGqTc6Muj$Y[5BpGQnakH(r|,d~aJ+r1_r+vIc+IuQM2u16]21DO6u(G%c)8R4Qd$$[82AjuhiwtWJ9bV~9vdukSzu)d).**zus(Ao)eZCJ1o
OZ8:)D=N;2=KbMVX[~qEuL~qz5,qvXEEv>)|uVi,7~GgM()7i?7L50clJ4PZ;)Y[2bVcLe7^_rmJjXF!*Ayzcq1AZF9I:k12f+H<tg6JJ6Bx,OfDK64b5?e
*&4QTt+Tf&[.[&h0OUn+|2b<VtjU?5;+4i%Bq=zRybr*:fmv2pcD1g$CZ]7;urX*TS|(F;P4Nvr8xGKx&iHvhjHP&~rWVD6KNt.Ii,*.Ck=wDAajMiYky8e
NyOC>xCQ%*!<tgV[??Of|yOgypTdu>GL|e,%&;mU%Bo93pwkrzj8?:]:8QADoz+i,!A~(:M;3m=O]u4?F8M.&=phO7m7ud387$I=fvk8yE5!Dx=4aH[<sZM
pcAm$ids&KU+)jw=Y|o%F,zm9,9i&sVt13>,B<j5$ZH90;J4p749ADjtoLFrLnq|S_1XiLObC0e,>Y*YnAjL58fGWqPhE=?E7<fOEjPG]jY<hez]u9i<ez]
Oedj]Z9|oAGH.;yV3spPg3,uuqlVX*M(]x;=!z*n[rTyteL608LpR8IzY?HpoM%wxJtfkpF7KW[:Mf%VX65dh&o[pq<8y~P.[wLN*~$75![&StJcMHCs50B
O[QgW~nfmT1i03DyTeR0*uGFp[i[<SUzy_!;qVQhk*hlQGVZD~lecp5;SKrtrOTSzA.E]&VVOd=n+;%u,5|A%S!nJ|VF25tBtKb4X8Cy1[QZ%C$wO3|bGP5
H>t=b=htukXes<V)l6jhhojq(gsh);WnOgmVc4e%9hK.mem|NZDHX,Fv~8AOi&vgzXPWNuNIfEQVSFr=%T(ikDCx8Gsi2R>th.I.GHcZwD:&G_g^w<!A4U)
7y)ruU&kL9qI(!A2%DRJTIcF1Mu,sOJJmnZ%7.]2YN19Jhj]$c=Nn=[Vj9=54RKAa^RnQ1XTM>ngD>8zBwMvY!THxWM85+Yq?j_5g:L87E]b&q2_GYOYRal
|3DLMC%9t|Ii0>7:lI3&vzTgz9[?b+soi<u)XRWHta7dvL1Mis[vEsrsK:Q:DcGZPm1vwJXqCdxstDd)c*vhx.d0M>coYgyDf&%R[[*2Yszk+Cd4^0c=VDt
tNM%zh!EPLs&(zcsE%Ijc0ih_fPk~9[js>WuIsP.iD.,=O~BDZ[_LDLctzU]7Dexbw:~w.FsVEGEK4QO,qGp+2r=RSs&?&iz%GB,4+fY4Oh0W24tI>$9,+W
XHzVjG|:|[(g?n8X1FUG!ehSP[2Ef:DLnq3Z79_g0000"

def all : Thunk (List (List (List Nat))) := .mk fun _ =>
  ((Condensed.text 46931 condensed).splitOn "\n\n").map fun table =>
    (table.splitOn "\n").map fun row => (row.splitOn " ").map fun word => word.toNat?.getD 0

def rows (table : Nat) : List (List Nat) := all.get.getD table []

def row (table : Nat) : List Nat := (rows table).headD []

end Rebind.Text.Tables
