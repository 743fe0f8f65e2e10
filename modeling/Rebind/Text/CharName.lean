import Rebind.Text.Condensed
/-!
Characters by name. The names stand in rows, by rising code, and after them further names, some of them for characters
that have no name of their own. The character of a row follows the one before, unless the row starts with its code and a
colon. Ideographs and Korean syllables have names by rule. The other scripts from U+10000 to U+1CFFF, and the signs from
U+1D800 to U+1DAAF, are not known by name here.
-/
namespace Rebind.Text.CharName

def condensed : String :=
"i16ZrI|c]A9+!$9;]hxRc&3Cn=D1l+zhC6],[IIN31|TVwv7lU,!ny]]W[Sq5kXtbiAxGKY&cTtx&*19&s&=E40Iv3s.p~J)S7l6:iPih?LyJZt;c3<E?p
);RI*3[4%sN0>AIH8eJ5;S~%vVVGMKD0!6Oo4~sG%L5FnUP~*>gr0_LtVTvoGL:npepd6PuZb.prL83x*$:N0H+2,P3T;fhqN0m7q[jwaX|wC2hx|^8uZlv
gu.GdU+s;LpqB33E0g*g>&Ip$Z+!.8PBupz4=zaBuf!UJ?y)9M!N%HN!]W.$%xzar^R<_:F!?.ZAGluSNNpB4wbha_l$K_trqCcsib7=09,Z:M%NuAy<vv4
qM2Vj>TbEMpfeoaDI$9D$z$Ltiz6x92h*h9!A=x;zvxvgraOfafOl*=Yyt)km|OmHBNW67h1ha[hl%*b)sGO2j)D5h?=VyN2nviUGcVw!Xinn8xz(VgXxAS
I~E2MF=l%ok.nOeKc1^%LNSV!%_I+ZVk.E:XFT[r4fc4VHkxn.T8^2*p;Rt3BA2Is6Sq?rWFQ76AXc_0C8yzyawOPjeKA[_OqsK$X(DtO;*Ea[dAeg,H0DV
,x62UE:]T!kAIlI)f>43VuhX:lpkVN3J|806(<:C;n%zs,)HBF6aGOh]ovhDj~+3IHZ[XvgZHRT:2=iqY,hz4%L19*=4e8<,6ZTY|I%4AR.GL|kO1_hGNOI
F)f7k67TfL=G1e*+3zP=X3nf~um9&HtmPj6h]Rc4i_|EdK&qG%Fmsh!kuG<V7>UNpNsXQ,$$UUqDk1t+>*Xk+]_sjy,$wUFjr[N~|v>%ZIt&Q3*9Z6tYULO
>l=>bzeXDrKM%GLFM|(+Y<sL,c4[$Ru04S>8cCIbrYjzqImyZt_(;]l?|&:XxQyLzK(EgRp0rRmxHe)L?g$<;^e8TXA.FwB=EPQx[hy<ou|f(*;,OE$<*Vf
x3g!6JDLtBIr3I:RDHPKOi2~o?).,O%4PFZ[r)|g,slI)9jA(zfPKS6?GPZNgTofOD1xa^~ZSQJB(Pu|CgJiJAryEpd9gMU1v!7R9Al(84D(%>(fowpg]^J
xm~4&o:V<nx^gES^ITs8rR!3_i0QnCd^QPnLLfm^TI=wD:GLS,HP,PiUZl.sSyF_8=<UqNIJx4~k:v<JTk:Tt&i(C>x|LHf)8W9im+H69z6QcB3t5q:^qsh
)M8~J$ArJ_jSFmsr2g<eJF62ApM2C:&mD,p^t_6fNl[Q^A16iBZ?ovjk^922K^rGHY>(,QyaC~y:%tYAaH4.[^%U.qp9~vP4%%2G?(Hv(TNO$W?GPS+K~Hf
BjQcs~!oZWiQ6EM5[ywM*8N7,0.uy]cdCwsS>)ch>IZP0h?%])NWe0qla]*bW:0lL]=2hlGY&I_5XOXAeaKZOT>4v^Q%gx|~mUpi2=5iAJg:XM9nzx=R|Po
&swDcn*W=C$g_S+<cjEA1gQB6l0z5=BXO_RMyHQgy)mcc~FhWkfFJDYA^1|r%Qb199BiKZk0HaB1K[tcl.XH!)?1z=.kLCTxb[P1tv!%z0OcUGuVgHt*OK.
~RBo29)tS=%XU~yr&_J>=4>wwCi(7ftEIb*3$oJTNM!Qgw)pLzM=VH%y*A2)GGb01l;n^vA~S.U*;QfUIiF_WWYaMefTXddlDRSmTEIPV_wZ[G%d60r$avh
)bNMxfNLoGrylCvbvxigQh&ev(L3%cWS86+lswfmU(N:Cq^hu%<dl[5pj|)^KmOhmrtBUn_|vIH|mlS072nOX$fBwK3,>pS+9aJhqEKKkx*,KmXS|f8QcD0
MTRp(XCs_+I*=&+9,47y?Z[F_Kncs(|p^&CK>U:MJcjnV4t0JlZ,>5pGg?^BG<)t|IlKo=<v.YO%Mg|;ZO9pPsfJrCr<1Gd&KvO=sVy3y~(Q_)::boj4V:|
acym3*:wx>f_akaH_ZJ,Eq&*X8b&lja<AQ[?HUPG.vS3rYX73S2us9oSLT8|;?]$R%*vbTa1+:qTP!p!>!>M6H|Y1R6)U?2_l%|Of,xIz:0x+B=H9BCu~HS
%Qp|RuDS5%N(.ZWeMq0kFbZ=6<VWusBOUsHO.mH|5Sqrh0|W)Q(EMZk;;&[bW8MsilX!!m=rwJQG_ywM(3J&;7OUP=0wW~e3U$8IXMvn(_Y[;toElHoFwzL
7h[I7?)3Z|;Y__:pLM^Ybz7t%9[0p3eveJi:N%Ihz3A9|Y*J$U,??fFdosh1iH5)rG&By5MrT,5WhWa,UW3g&=,s:)Q[)wft1jy84fN.W0ZvPkz1!o*SQ[;
=ag3,JNr|j:3vhK&P0CBe:7o0~%q3OxTOYGxWVCB]5CdypT0;kuxH9a[+W=*lO!!uGZ$8%wpNtynz27fXrvR:N|?|vofCv7oclJkMNVv%a$[CxDF2qkXfEU
D;JlbufNDFs0r3?29l,_S<~[fON,I?pGTidOx*f0+TdHdGXmN5!]zhd8=BMvI!kj401qF(YFcX%1Z[3g9Bk8].,yN*^r5[d3;I[^WL4QlL;EI<.1%D^KNLu
V8c,L8Dd?I=h6+eKrRoZxjnO+GDZ.k(B]M+8y)HSzMo!r:3iTLOJh2z13FKn2hQ3WeP3T1W>N$xq$r3RZQqF)vFZKS3mFw&5ezZWMpEd8Fy;<(UpA%vP=O1
|l=&=:|i_=7e|oPo;.:p,,?GzTq!P]c6:rH?x^PrH?8i%0)C,9IDg.0?w!6AAU?ngHh4$&CC,Jz,<dGi?6iD>*Ybb)cnxh,4(pmdKps6[(tBnIqFipEYr?)
4ToZjuGNPxBV9R2U$1El_;JwZWudgDb2|:e9G*,W7*GUA7D3&nY>*[.svmZxQYhfu8Msbu>rFFuVAO&*Y7uTg4[&6VAK<BrcY8P)&+$4dBJHIqub8KE?5b[
Q*9s8Cfk2(taCT3aB(BHZ9:~GB[N6uu%Wu2NW=D)RU0Drk~&EZmYwVqWAyP<QD6z8g|=:6n?ze++Y%aIC*83EiA7h0.+4rJ]?:6>l]%4xEwGfM;$BocTe+W
SCT]N%hGB!R:3X!3ga~tG_J)JbNTNJL)r7hDg),STYDX[4La^ZzEN:H]mtj1cIyPJ?!TwA78LUx%O)&41MYi*a$OhmQ5VTg%L_;4vBKnb^b9?9jlZWtW.D7
&TxfO98h~7!^fN0AmXk^EKjSOuwK5u>+vDddNId:6?EYEG4;*qh3QTHM3quPvZLa!sKTNCDZ88mYPlLR?=cfrN?IR%;EZlssCCWUA?ae+X)gv=IhX89bF1p
.K98]7a>lo3!wk9p~5S?ci~?riB5%!Z.OmvQnKc[C2Qz*9nUR0jumg;BQsiAM+H_:dsCK8WqP9q,uu|(y|PahE9e_NutgRyh?L,TGexMXS<L+k4nKyoxyKS
Bj0gznasJ8^|]&:y:ONNU9|6wV?On_$M)mH=yiXB*MJ$AsQX=!jeKgn$wtBSKFVRzs),,t$oaTotccV)$vwK6B^q|fQtf^NsE~vD$Az;jftb,|w3yQ]GchD
:GY&l(6;s!ErgP)gMlFfNeA(ezuMeK3LSE1a9aV?hgKFUlk7GQWcYbpao7zvvsF|D508doV(l^WRGu8bD<Xddc6+:6s5SEXHYv$~?E7L:2!LK_E8Fq^?<.&
AlbPpbspb$:VlxnoM,+O~4Cvh&Hc%f4v1r?N?i6aHP>4;)XBmg|zr]M2FC;KvB]q_I$k?+6Us>bqd;njan1zX~4B,jEHO0_&$>ex%*cN9~Tt5bN32fn[KR|
[I9^TOVzOyBqzjSg,1D~gwZYeZ]v+ZP$oVO_dB5R:qb015vjI,WiqT,aI6?XM8bLL1to30p(DU$W1G$=bSD)CMe9wsHRbopkE*c[y2NY&,p=ucKV.fHHNC_
UU+E9Er|q.vd]o*GQZ7$b;?]M1.t.&C9VdRZuA=GDd*NenOC7rfeohle5=8ku6QSbY[DF.]O2erGN|STp>uETM]R7bouU*G,^|C*5F)z1de3ADA9oZ&Kyu6
%!<:9WJj+t+5FBO[9U9>pID1|sER64T]R;_<q|%~T0I%]WCf?kL%^|iv^S+>t0clGmxhZ.T?bf[y_P!sVE[e:3(hTj3;_gI&_iEInWO5f38b*+Zt=F0HW?|
*,y=s$z_yhBlY:8<;Y6$HI=_i7iy?wALuKt!+^Sg^6C%O^g&;IU;Na+=mv*3GspE3jfLU1h(fFK5WCn|7drl<j10,W?SBERHSKM92+taVrWiFUXN0V,tFIB
WP.FQu*^,7x|t30r9ku*e0H_cXi:DMR:&JIu:ZTukJqr$.1H;NjY*K_U7Z~$9kN9aQ$xJj6^u?lDLLx90PymkkFlhoYBI.M^IxhnrDiM1=4pUl[2T~w9e=a
2~F98e8]h?zJ1w3n:GBxH5<bVjuBJqxvI8Q00nlpfsJJW4jACFJWxr*?>le=$%e6,.E|C:J5KK[I=VdJTgq3HQQ6ppy_;enG<Ti?7Io$>uybQ=0eMw63POI
T<>8;A~5h_qs:JoJVJOD.obNpIvVjdxz]Ns_EpRhGBqk.&Wq%5z0zr0rU_W~[I>!)W&uaI:1FVeG=E41,4S_r0gCw7UN4pF+4Ys1(jfszHZGoLDms[P>5r5
%sXIRug?BOm8JL0kJS76w*U4Xjnx^n^%T5.S?dBS5,Hsn=lyL.=RoK)!?B|Eig.[1LR[JZd!^V|.=yFc,!NHU37cy7?tbS1A&ju&X9K_%|&<$N;6]F%,B?R
[QhX3cmzDlR2w>gE7:(5>Lxl?z~Zayplm]+|?!v;~5%!*^5M0s>yYELwGp|9HHf=5+RBco~%75f8RLo,Me4EO?7)65hRfrQ$<5w[yW$kM=t&_]e)xw7p3nx
+De5U7T?OD5~mw=MJ7WTSzY34p?N$:&%^T>vv4QqQWjgD5q=tjPEIH%I1Qoa(yKECNfUo.^ukhsmX5!1Eclie2VaEE2qEzE0K6d_kNWA4v0jjqFZkaac|Zt
^TEx$fbrzHeU~[*%[)RbC<]w(9Py5OQCl~7+mR%89xhiDDR>Bmb35;s;V6v$J]0S7=AAWXml^xuh5Uppilf%)07YHjKSySX^onKj$RL5<mXAG|MAweUpu4r
r%0[1BcO)OFt1f:$F_cOmT(&e,G_d<t$qfg2s)^FNxP=?0*oI]j3Y>NOiZsWlp.631:+X^F.)xP=stq*!qCALPRI2hjR(O%m?d3=CD2H1TMxC~p|f4qN[,4
OMrZ$ET,1Ri5,,0T_viLQwdr5P,$Q|i8?cBO$Rautv(o.VjeSU~BINPD:eY)!Oe$W(<CO64]u05a6(Kv%dyMlO1sJlSxR<;_XtJxqt|~zx7wINGb_=(rDOd
7mcF4(;K6ud>p:4ewF(iKmJp>:]dHjj~WCr:>i)KpR1<XzUc;&dURKUDIoA?Elh~$Q2POfp,:u>.ra88,yBzkwp4(la$BZs|x*5e1<1%t9U8cOyvV|uMYpH
e]+1),rd[jAQYWvqJrN,Hhkf9_62w^A:(U4^7%3p$;Fz:>HMHgj|y0D*.uKygfo=H;QDx.6RuQRfr[<Bjs63t6z^>=feslct<)U.~7(IFPTdCyOH)VWNU|H
f3W~vzE9Xhv+=|dnC!r.OheUg]$<HQGjSoti7D2G&lOvhy:v:2bwDTiv]e&jWX,%IDJ:.rPJ4zaYP2+QhE]kNrIlOzlm?.eU)AFwa,*4=VY+[M24Es2w(Ip
|h]p[j;5T;3eL<qe;vm2KgJ<3K1+=Oz9uHXE[l3|.z<ZMR_5Yi|hKG6gO4*2gvx$L]EZl9E~IUY9m<u[XS2o0]3U1:n]hU>pk&S8o?RX0|IS^<,w|lH0E.z
z|$R78jj.<t;>juqrk+zD?&5&^c,:.07wwwfmM:<rfgE7K]Ey0rt(^FYBRUE5ex6SP5P(M%G|10Dyof8D~tS8EFSO]Su+9=b00saqNWBe>4~)zl8V?m:u1+
^>I(]!:9t9WPNRko_xWz:)2gQztPjN32Z)qXJ][<C_wz)6]:;W)tlE+Mb4eR7FSv*R89rIy2p1K:,%&J<&&n3_gVw(Bs2[>D+ydvHJMP8!gWEu424MdPhyq
87MeNEBeD2Djf8_W5;vji~Rc.EDP^7rG1D6RZ.PkTpxDV=M6m,Aai9LqMv_5:A2g+2X]EZ+b<Uij+)K&c]w?iw+RCWqN4q!HzXifugi3]+>G>W!,97rWEOp
^keXJ+vR_9PhznM:T!jJQ.ZN>R!s8Te~7$6~^<OO9^*Cxu;2Y[~21h**P:D,Ky=~AIEhnPwRi(+FuzL=MQB!3VP!1G0FOU[2on%qIo0dLtx&3zn4xPUwa5_
qOXZ5m(CoS_ZQrgLC8m~V1sA+$a?7&.LQm!4Q,tT*Zew0yxst~h6a9u+Mf>m&]A[AvWXV7F,X+&%(X|$:<80jn9G~sjixa?_r=Wk2NHYj|t=4h7Hf;FFY6i
4GlEvpRm[l_&vFsoS,SKl_eh_q2HS;>]hc^Qm|PQr($?>rsHjMNxL6[>?;iO*%plXS!_%s5q6HAW?ma:DXUm5DS.3yUXmL65Y6[1s+f0ez%L45ax(m^S..(
lNc..53F?:gVZ.hET~jHXP9ZrIlIOdx3GKX)d%dx~flu:U_;D$!qZVud+0pMrtx*Pr)>Mjqk?cDD7iN:^2&_Vk,s$VTVSPsnUq(l<,Xk$lRibj^R1|2%okE
O%u:r;nFMrxR>oV96i34[(~8VsJsqjZk)q^U)nL()3=T&&msq48ZC,(80r|I+]o3EN|2NL3[X?W,T?z&9YQKlxIsF(LMYbwIkMHiarA~xE0dhH?bbS]26bf
tAfx2b02+fo&s2w+W,DlOysapgi=iXvvUcIue%<i+A.nr^yCI+wl&>;r5.[Fq([fg>z?c+xe&4CYWndpVDC..8c7Ur,QZ=dpoBJDzY|rr_szXUql1sk:AG.
LRFfz8_|;84the=[*3U*K&uZtYhL0X$P3k7CeNDnS~;xJ$7]oyvVf~HE4$n,f&wOkgLeU*Mfhmb?PbO9qBAsm2j9*&:B491IdzEQD|QREk,:Yyg).W~hvPX
L^vE>IB7LyZ+pJ~mDD2plZ|Tm:ON7!0aXb<W9n]XM0lXLj5CirlI=G!zt>O4>M!aG!nDDadkUJpclq$|ysUkQM(O(US!:6lZU.y,<Y(M3!KSCBSupqR3<.I
6YoJXd79K+pZy4qXTGMzF1;d7wJPc8mJS)c+G:QgP|:2C1WYw%Y4y!QwH+*ziI;Z_q1)PB8mNRN_4H:1+,(^BzMDm!4*;xudxii.W^b!5x;c8DJ.(2^]vCg
,0uZNHO?Set^=7x|(2KbRCY^V+54$rsv(![NI*d5$nhA<.gh7LOH(;ZW?Q.QCglgPUzuc<E,0ad%dNcMXGAn4Qiyqaz1<c&MmJ4%0~o~u0<,8ZvjFn=5DlD
PO&v|6c(qhyBJPPSE%M?3G&eKl8.y0]$acL[sJJiAb^Fpdt:UEmE9P03o6?CUThf,Z)f.DhyD_UwajJ6RQM$i8:dKK!U|2(:!!jtdANu:g*cTRLv:)3jzV?
dV[*avY|JL9X0]0Y_9sv(Ok;l+:*FO7<a[Me5,YkvgZ;,;s=QWcd*ssa!IiEqIMr3rhH%Cll8pxiFmcD+II|GT^CBvnns$;7BuJj!rRSVFt3_V4JJ2,<7~1
Fk6*T1tBwluf::9grxPP09Qe+tUR(vtzFrVeUlmp<m(YZU^4nsQk2z!+i9]~WJ%:T%X7=dMz%xIzsoso;q<Fp^vSmafrdM^_4YV4vllu][,5Sn.815(RlC(
;$15XeP3m1g?h[oY70lIV(b$5dr2B$!vtRgx9YTDGTHGHfr~]t_h[0g=vo+?40=x5?pmKGhc:^0N&9+oInj~lKOWJ4.>=6Oc1HtdQv%[13J6S=aw)MY??|)
a|O2F>%_+k9_|;S![Yxik^bOLrRr.;K)fWpjo8G%JA[pu~z?XtVYwGd|K:yZzYNtT=eN~Mc[|Pj),U4Og0CIEIge[]XVwTa?Ommhh.~aXna|Xr]|LcwIqbO
1Lsm~zit><HcV6:Z9w,zG1aiLTgLj<VXXo$BqvUzbxbr<RpVH|r0xRPeZtXnbi3VD)hH|K4!nMY[[)[Vrl;cT)MU2Wb7+5:];52dlO8Z&.:=jOdT7VUwO*1
1gbs|6=8Q)%]uhq|C|t4%4%Tp+AVdNfgGB+Z3O!WgRw+xj[mE[P8zhN_c8Qy~$7Iiz,8+l5HuTvS(]X:VqWfrFz[mEL>8%WtDx(R*e6>j_YffCNjFy1y+D*
Eo2ifuZLFF>ovMC;C+x!X:KvPM*VRbC6Sdg;+[Yl$g:7eAyaAS94i%jQ[LPp$R?[mHw0k4]PKdJ1SY3De6lNuK3wfo~5kBcEQfieBvT<[9bg<$IUEOEC8u*
MQM]Rx$sJth:Jt&51>7FWaTiiGAV7cB2BbtnP%y56moDIrx<%FF5viV>L7UiA$*i]oZP2X|UwG[>7u&>:jPy2v6NMXFD~2_Y+xqP|>TxXtHoyAot^.gq=<f
?E=!m4DkH?TrBZv^L+xEu))yOOkhDV36mF_yNDaJ_i.njZ?^ypfqL8S?81w>BQa=N!Xd:GjiM5=TUID=GD=4sg3[nL4O68CfAuSsKU5cm~9s3mSKT$|(FF_
b,ZySBbFzb?QAP8aw<OJ&7ATOibb;5O>G??_YX,0e[7QRAeZXE%HIT4+:*vxP>wU28fn8HA.ne.5LpnxAz.*g>[!rF>8y[GYio&adIvSyMfd?MY=,8q8&JW
>zxD9EjMiGJzO3hEa$C(s:yynUc.SeJffwLgqibGE>gUlghR33lwCeBgy^Q)WbR+E[*ZDJhS9r.F<q3:z)Edtl5x$cM0Qwd)B?8s*INvC22py,MTot>d>uz
Y+l|MkjYsWbm!!.U*?S:I&VX[Wc_qkIYE9^&KF&EeqX8!|z;eDMU!eyeX0e!!RM;[=$lT|YgZuT0jX5KQ94(w!x01(3VOH*M.:6T;4op8|<pq;AN.$Mff(k
~t=wD>fM[q0NrOMk3[lp](3F4uPg,)8$GbtmURInSVh%<~VN;4Q[%szLxk$sNKq!PAtJb4Xx2QSw>[I_ypXdE&A<b699Iw&69tl_LFx10S^(sv|9^~R!QD1
Z%3h$J49F=m)<K=20TZCEdW[v2Zhsm&s>sfKZT]%S0mV~J])68g%[5bmdxl(lg9jneD=%C~X|jJ~tuL,g$Bf7eV)~w]PQv4+=Da95MsTAW!yER>4uFNELhz
~90o5N!(%^HR0Fx5!kO*D+o~FqL.$N1WpLw;EH!cXEBs$<fU.*TI>_d_]BY|g~(v76lA3.2=cQFCsU=BI=^q%WK;_>[wawSc<*kRQLIiD^OqTE&:>.0o!r2
M&taz>jrQ(AuIGj3LQnW40E~i)rbJwJY8LI>0~JlRrwL&aiFfV|1Ypj_Mca)vs(zSeOKf3R4liXb7qt1*?5D0<c:P6PE[wVFbtm)FkVB~NYnvL(4QgW,TxG
.]Jw+q%xm]qDeZwZMPS[X[+u7ibofrKJSpuC;|DIiK&uZRwHxn9Ns1Dr9n|MW8]|h;=Bj[R>eA4!E,K2Ao9ER9oja)aNeLn,r+KM!m?_|d0Bw4v9I;r(cb1
*P0xSIk]?BF<Lwh^RlE5%SwQPJw(5Zv~F]A19;?06X<E1>GuERAs|+0~YSn+VTKR.4LJC[7E6Ynz,NEymlnULys~(;9CUO>C8Y!r!XALN]>YF0]4~s.yS*F
le2KujAFt~2Y>D||R+=SbEgl$(GseF=rd%|cfb,RQ!1zO7chF),,y7Hhnw.:>_(&;ddE*Eg<N659:1S]<mTb+bpoQ7Dj047c9N,|F_aZNoPtrBw+n,XqVY>
sD.Se(,v<vav=EyVTid_)pI.&baj;TXb,SH=V<bgGvXaIotA?r(Hj~uojjh1a[z$IFP%^jOe,I5vF8&fGn0kw1PQ+y8[Rhxn7B;YAWPf=mI7h+c(?(XJot3
WXrB9,AsX>NE!2Hf?pa]<[r3<XO3qCp>l&Um6V5V[y0;JfpB~w.w?NteU6a|s_fe:MSP]Z<w+1ZmzlU!g:ztF(0;=QeDm$2DfBVH+yZHhgJ1moXu5DC[<b)
q0hqh1,av:.[Ha96tqP68qG~En6E+k24:NMNel%rpmJy+_I>RURDY8%>9yPMaF9!nxqgfG,&P&l<?E,kH5pO<1RaUu=26I<w9QxHbfWn)4z;[|7vh~f$RO;
%+<|aHIrr~Fy(nhmNd_u?tzuf|W1GY6Y=~?0NL&)tPHu83fhwbrZJBV4IiYO+BL2!iLF~:uTn1K$M6Wg*l[BU!EFhJy,+J09^5kFRZ(y*a4tS5B[W9rn|>c
%GL^Q*6xj|wicFK:(2$w9a[<=M$NhrH%*.pz+D~(jg=~]T:UF_YI+^:So(7t3N]lS>$3|C)WSyzxfOL)<cGdh5!d|J~!nKpt3,XZCmv4!]o>)tE66x6oG~w
NN_l><I*Uo+4^=Ax&zd(.MjjMX1nP:<%*5JMA%5EhmMh=5ri$Wh>?t(y!co2PNiI<0Sd]+Ckb|wRfME55]+9L)J<+QA||)zhON(?U<H*ei(g0%GbG7KqL!E
^.u_m;l)Zm_Sy^vUQ(YQ!5;|vhXjy8a!Pd)BY]%2C1F$k3|0d)TR>mlnxklRi9hZl(e>VYeAXEM]Z]r)~K)yqRTT7%KF|J~sBI8nyIz3hC[4M~pAg~AeG]v
(ujaJBR2J.9j:;*3$[5u7(s,<,*L7Gg.Qdz1<9nL&&mNFus<uY0==A%HF5COe&eqvd_bO]&ncqqqb8*Wpa&+tgP?$;(*i5PcZhriM=^R5zq*>$O|W*9:YZm
2cOvg<EAKl8~TLsuu0|(WE=sKkC~+G(I2)XI1Oi<x~nzKRQ(o1ytVo0hu.D^.1HL?iLBv:myNB9V(R99,ovB_kboBCcDmSlo(H&C:AtIzq5G!+4viB*$qFd
j4L%ZJ4$sNxv>5?NT4xCx][;DBE:%_nHFeWUvJO+CfgOwSw:%wcL5l=yUSEa18[JI]J(N)0=Gc+PeQme.I[8Q9(hO9,Y[ZSifHXF=IJx9>MS*_C3q1(V+vy
36a9%gktBPqm0D]PS[fT7OzC+(.Yw~ETTbi,:E.!FtRF90e+8_9<P~x<~Elu2rV|]8DXElu$a)Z?=j:53?fB)kuG>;F25!tOGomqG?C_tG]fgMAy_W;4[>W
J5zGx4tmK|Q%?O%fca%Tt9Q6zBRG^c=3|e6Lk&yYC893M2JD>_p4+2)]I[>ibu;:e;P3pOlJ.]HP,d|K^.D70KXEzX%;F<)]^:AmdL2IkquYP3y!|XGjfY4
;.:=y62GX,8nNmC$,S*aWx9)pfpjMgNh:H3cF,gxpP*&+UILM._k[$_J(AbCNY$XL?ijkORduIdFBOYDPZ$*XN(gXwQh(,A6NzL[~w5CU_b1Nyzh63n?*nP
,J(EwGfuFxNsSKQg~=:+8F7CKjBB,,MSmo)W_^7iVDX7N5q$X8V_*X(5y2,n&*kmaG^$46b.d=Q2bFVdLts[m1Mf8BZA&jqnbhpIdt1a]=]?IMa;_!((1S8
vHp));taaL|rsv[MNhIW5c(!xemZ^&oLtp()0G?2;x?A]1Fe_>l|v)_Sun[^Ih|T)O4ZtLyvbUTr_K(%V|ks2+wOSfK.e9MVK:Py=K~:%klq~|ZG,1R=$Ha
FN.|=hU]weF%_:e5fe6EYC(Mi0!Xsb488Gy6J+ci)NhC)P5D14rU$=u|>.7Fiws^1C?natn%3^M,gm257j6SS2cD8krBSkYd|Zardp5Dh6E9W9,mrYht)lY
I(XvI.GE.9P:k$Q+FKZWv|HgZ[AFZw6_YZP|[b;eC$%PXdNq9%2ws>2|w7.BYkv7eJ%y&BSultxOXdLmg_k,gu~f%?4YsdVK?j<bDd:|%s>&VauiEm;T(CG
wIAO[Tqk4?:,yb0syFGP$jVsot<^KqBc!ora:3yWBddf9<Pz9do8xHJa!*f?dO%Oy]yEZXMc|<a(l+dp3rqc(pV8W9jrK[t1[wRTZ~Z:2Xg|=Dx)la933)o
8z)xNYVVt6>skaQvjAk6SYsL,pgsHp+<?^A[LHS4.%YdMG((|D1>;sn+Doo8|olXT:b*7Q+~fA3<L;&emjpkfys)2|=!?81IJ$pwM~mDl0x;K?~N3wd(qIu
DB%o=;ToG+B8mg!.EALwqN$2ZS*SXXJSzJ!5MY~k;W0y:~:4^TGaj5EhBd$tZ;3_)5dCnjfZ7uuY_wvr0?WV<G50wNJ9ka3q=.6oij|uGR_T(p;c(I.![^,
iQK7K^,Lf2|S6S_Aqmd)zilJQ>dvGR9oe86a&:!w<guv4G4:Cu8==,T*Ms]ICBOz87eeq?lun;ioj:;k9GS<|9_G3hJ;z<+L:&7_<.;?dN?UP2FV7ii5mLr
rz450?wYaikMAJXAWL^4fMWvm=&fd^*(cWh9m7wS3tY_RKm$3(<]Ej3ffh0)vGQ2FeVz!z;G<Qh[4x~|<l[G_lVsJl9EO,FhFd;EhK,iYO:G(3J^[%!iQ4S
]ZzBbMwAQlfAQzXyLs8Ft(R~G%Y~(aR.Ga%I((e_M=SAkPeOgRN~CMXwH7^C6EO!Smaepx$0?DFFb9<=$5yH0d56F;t51psleEaY8Y;z$=PB.B&cX([kTg!
8CnHDx0tz>0eq7OC*wSsuFxEtp6sL.$gY^]I|,zJlg3_OPh[(v!Ww.+Wj!A^a33xJ_v7u)>*^m;iZLNiWu$d]&jv9P~EUf&^ra~)l5c&52eq%gyh<gN9_ou
o1aI:I8Q3lCv1+zWs6$[w2.v)ot0v.oA4pzNc[JhsFox12r12N*heQMH>%NflD)$Q].Xlm[(ANlT,;]v+Mh,Mphi:4DWyR$jAjFB.5|;T&5)F+(]T:6$d+_
>P:(11,<^<wPpvD*>,egAJ]]A5aNBDSE<?hcM^Z|~UA2.Jbwyw.+s:NK,7Da<^)[p<js=N.!1OCtNzBbfJa_Y1r.eX&oBo0O.cZcj:PUO>bpzNJ<p%G~xIw
HiVrk&)AKWw*i>+QghzWbAgLdQ(!,xK6P0=8]8B>=UGbun8p;Xf2FMTT=73:H[6Oy1PIKX~qS[SIWxyTE|i^f6jmV+,!(aV4N(DR;:X5Nzh>C6S<;p~d_CG
875E80qaZ<A[B9krj&24l>)r3Jlx1tMGFipvuf;j.sgZ8T<q;C$fj7u7QZN1JxrO2YS[;<_~3&_bE6A:eCdE=jRrU:,$KZky]gJUv80co$ikYxs85LE&6BY
6x~u,,!gHhb&_t67Oka:2;?K||m*a)mgNw?hq(h^?V9hcqe~k]~CGqao6SjR=zDhw8[k2zzV&qwF0y=oQ9p7]%17l56jgv>rD:Ki%>i%_[BokSXVE|xm+sN
!4i]y[X29YO>D1]~1jELYs>l[&GcanRG[(rGVl7:GUdqL*)d43Ttib&+DH?<10>R8bk&$.+5(U6A.bo::KCac24Bv|6YS%|XdOrPVB:[~)ts>Dk$Bf*W0m&
s,<ag3,SUx!!fYH&aa:)PC5w[tk9B87l)5*IyR%D=K0xcoJ:2nJ9r1P0=JB(dDXji%y_.8lACX~<O)HjhajCp.ADcJr3pRWQy]Op]BVHRIJ!|2i7d]9Yb~[
NmSma|v7caH.w)qeC(u9!fz1vNllU^;=._HbsHHY5,^TIglli;H_*|mIZcFgt_smw5Ug[pRCLJ)<%=jT,G!ks<UQKmZC(TPn;3NqT[,8_=9C*JPT(V$av3m
xJ%p~(~t:BAcA8b[oRurk*t&nz2mwJ|FF*+TOcM~|kqsx7z9umQp?3a2>Q6~_t6&<k~DtZ%bDq938eJJsoDNo.)LBYlo66Z3;P0*PF5MWI_>d|^4956F&K?
D4svb6)fD32CK>SRFXT<mMR5<+IiEu(GQm*obEXmHdK&W!.+AO6AVR$g(7U>v[fQ<STdM)qH%7,|gIXSXAHf2~1,D&f>95>^IH1=OIB%IlfSD(ia_6]&N&Z
aspONIQEUREih;~r~1GsD?lu>6JM[A~8=3~Tfngs!^apMjYSSj|+Rpbih3zZkvxCW,;2zk?$7w_HyU5787eBDO]uM,iw|Lo&^Z!:~biD%~2aE24~agx4<>H
J]CFr9A>8)Z6Z|QA<tMBBj4KfcB|]2SqE>Ha~LWoznO[E::ycAx[%0RRv:77SBsP=O2<2A%P)(FHWjx!zc1M2V?l^qhWk95_SfO;PCnJks1HT=YdqqRgm|k
yPGIpHe=y8n&2sqD^a]C98vqKFVL.Z5h+dn9>V(ddLtSNXv5SFvK<13Nx[erbg&P1PZ2hjed+gnb|xU1?GmN7I&To7(r6w.8PuF]PDkOHYk]]R?oiG?XKfe
Psz(eR2djV[l0^VqeMfwRgAuqL_NnZ?O%!YdWMUESx0Jb?6kfJM|TWm=,iY.0Lz0z.QiI~0s9w+BnS)RjeC+DcIMiG)JvO3aCHc9fS5Frxq]n!<fk[|W9sy
&S_jkj5v7I,k:MOIEW_Hl=~B]r$z[=gW2K~5h1)XQ;$$%_!n6a~)b.Wu_t8IV::]oJjzRn$2Y)wqiI^UgxZsOmctVTazm;VwmMB)1vFp&YXC5[qVbt!*LHr
i)[eF$U;*.IN?cIDg(o7RE_8DQ]?$En7eBqflHN<9xOLZ]Chvaam$!^XQXKsi(47B)!,7WFDM4P4pcCu7Ck06O,mim8o)Tf)fljerqnKd<[,t;bb5vcQ!7!
]HYIM]A^00BI!c+Ihw%t,lT8InFF6c5~P5q[[y,BIku>>(Z,=)_^TK]wWJziraDH.VI%1STeCfc<QomTZ!iHL)m[d?%qb?k+D!myBFKj^yJAG>M%Gx*ZXru
q;Fp8,GlZcNOO9lfP9Y3RNSQm$D~*;&d|gB3G0E=o0rMqR.(Kfk]h!^b<q%euyvEOfX~4W;V82e18D1Q~kSrCywU(1,%zO6zi~*Y2,=!;[*.aEOgHYN_uXQ
)(8~8*^Vt2NP=dx^k*)jcS.frk;F]BYk+wphIBuc71AoQa%$3XyZ0kPJuLU=Yk9D5ooIw*f%0S,M5Z)jseWy!=,aU%(5z|dC;MH,[C_$z]T=8V4r_E:fF^e
l>SW1Iy7jj2lE4Im7bAEQzvy>5sXwy+,,j7t%wlsaS?wru7$vK(O=hf*o3<E6qLfs;fJAehY9=WqAH,uFJkSjxSXOZPyHltq?zywCtqhkatjhVb+ctJYrOb
b[00,k+]Iclqe|KQv?.,:*KcQ_~Y]+sP<q[3S>r(uE42ubdWVFNV!qbBiQz7zM%aUVWLj:pnY!H4E:fFKE)wKv.6qYxUP7umn.7pKQ~E7pb,3V;)clLb&*3
lAA|N7%^:eW.]t1NnQL7|VYDA<x+JJ8.9GMAJawjcW.VmnsVAPJ:wIQdL!FS~cD+75<0qyuL4hcj!J0R7!FgtL~8kc<zk,SraFLL2]Z|Z!Qtfv8wX|JU5:_
))rvf6W6VRdXf!nHC+3LU$.Xh+AeI:_U1%F:L!T_xM1R?2&Kju98Q(9|GBo~M|LfLNMPZKx2a=k09G%WmK_*MmFSdWtDj~Y8?HzDR76U&dA4+%dcbO<Tr?F
5p+21H|OJo&QbY0MM=%kGeJBuf2I:n8Ar(DVV.yS!A]lYebsI$E%z><^1,Z=[H*gsB%qXn<c*USd>uX.e6OH8Tf>jiZrv47xc2x*,Wc,0MpgI)R90Hv,(Y]
iiOgmnmhN%>vS[(=$>aJThyErzsn~DhV9RiIVfpd(XSQ8++O>lv*KtmNQ>DjX4$8bfzGB$jl:6bO?epZp&+m+IQKGmzPioJ^b[ru!o|,UoSq.&8N8^J<^Q9
DzNHrx7LRj)OCxv%sDkm*QNJKkyV,z6%(ZFez&F1B2Iq+*6WN3lb6jAtf2*&_VSJsQpat.~G)w79HA.SULr~6wY0>TLTi3<;F(VrgtH=0?YBn?Bd5bs;%F_
1I,([$y?*V<$6afK))&J]i8$|PO.W+jwW2pbSm],)*2$.8xoPZ<vx]r$0PHk1oUyWfbsd]=91*lB!oLWIzcA)u|vU9^jIbU&Yc;P([]5a!(Xjymh?m4OnoL
NDfd]yE4G&I0cESawgN8mCAXZ^O3)kZ)~ZomA=lzAOp9AUZY.8~==BH4jpW%FMh2vau:VeEB(sQqt15%i&~Wb+NqZCtdpC;tM7.^tCD>MPCw|4ds$::wF+Z
0LPm&OdrTl1lZs6~1AHCi~S+liu!v;+<Z=H72dJFavN4J.D$MxYy[;)[L7SZ+pQp6:19l^vuPGG]l<1Zl4xWdZq].y.~gazf)%B^H:vk0T:v5&g0Epi)fkP
h.RB)c2hu:<$(hw~w|<($U+xs+**E4jP,YL:2nk6*YgizhVg0u_=HS!0Llwkzf?]m.[Lm9$7MDUYYbRU5RT^F:y.KA7=9j:)PkFsAqT15zGu(~F+=6sMvr,
dV%rbS;*68y:uohCnI_Jj5JELmQabsY=5cYTCD2&ugAF_]he71P(sg.=.:Aav+v2Clk|$jc%)FUFVvuX0?th1KL&qd5I|i*fASnJ3$4;wVn*fV1^Nb_kS9~
5qfqc91)DsoO7j;Lc(9z21G7W1!u.jJAj:v?)(B;=N%A&W4r?d4vCk2wLH>c<=Of5^<LB9S*198X.)Iz[wyH1CokV9&j50HhGSL(dgsNP5]CGpy!~IzCGxj
7oXA]$4wZ[Lqr~n0>eTF8D^$7;jk+njbZZ:cXG!%7PjG[t~GyyZxyJARYr1Z:dD5_ZlC;1r&CsAzi^m~ngJ(*P[iJ_<[MYdeXR3OjW>0DBD.VB>;_Kt*Q0P
y.2_IyRT0m^in,>,SoR4?0m8Q+bXU?clL0&!ICG&)7hO~^,*P4=^cJ,tAYXG![RFbj8J87Oa_QBjIXK%,T2lGrW,O>*rk%9zRv9K_nRr>D_OX4!Pl_%o%L8
[YJ;+WY%P6RGn&C+=LfGjf*VPjGScO!yekqBuaSl~(AvT;ToHwEYu8r|>9>B[+Zh0d)xNu.]8(N,<Yld=fm]m*w~CPgLj=,:<=3Zj1p|DUEQzXx9KW5AuVf
(ApRn)3C1;kcXYQLffB1ITstz!,!Ux;lj]e;gYX_)=+C^OISY&E1>^lQ)5]1Qy1tByq5A~g6DSu(?BbY:k6[&^.UOZMyMvdw<VQ=8;jRnfqdYEBm[27Km2E
$2V&B]a?^UQH]DH=4,cQ~?Lv)=.K[,y]0kbuOzXJ3$fN$VT]ECfbb+zInKdQS]*^E(0XXRIgVBQD0uK0pbp|O;N7elrgEK0U?hoBj!,uE[iogN||3]>Z;<?
I)]ZL0J(jNEb]g>cC6Z_s=hB5_VwkN~5+KF5k|D1KZXDxnvl_PL~~,M3b$0Blv7HkSfcOVI1)G|qk%7P|y%UJ<ciQg&?uVX$Yz]!kVCk[yE(TV)2%a(5pT+
cq[PK3|79:mGI(%4.]62U|S|Kl>DdaFrJ*0O(1rcLRc>]jB6kj+kl!lFa6?0FGT9pF:,&rt%H1(4P)SY2dqEdi|T0.wJ[q_6*tUU=zE0?I&HPqSL^9R|bDS
uYhacpF7fQa1.I(Lg&]E62XK>I!Yg8n7pR^k&!t%u=8dmQh4+l=P0_r3qd^tiXUV$Z)IHzm(Ga1BP9WLcS+6IK06>fvi[iMNO+0Q|?fAyJ[0)m~]1bsQ~(c
8ZM9rGy8$MXyxbUD6]QdB*sEFRX&f4Z$V~1dHg)6s?S*,Jrvw2PAVO!1;D~Me[XbHr=i^4qoA8gvk2|evfMrkCXHkqcfIMeamTP2RwoDodGb|(M&.>wgo%(
~+d)]UR+&?[XIgpG?pt=FCNzCKVkkf,U7l,1jievVeAH<tXw6c+wxHKcb29j[xamJ.=,<DJpzytd**2JsF>,(Sa[Qe0%Yo.eKAD:=%v;dLDtp_0h).n8Y~_
M=iYykURGsk2ULk6)?)mc7q0Y2Cz>fLPGOEgp_L5))zL*3*TWx?^4|:_TDdMZ:RVJNnHdGS*prbImRb4bt<CHi%Cui&K.GAVV%huYR~yyTSN:hnmKwK5LzZ
U4ePjtmBJFkU_sMWDuVdC=RulNy^0i4KV7a]l>VyI[Fec$J?S9%lGPnyiG6b*8RRQC0|Os20eM_x:2BImiU|qDB9UsuKw_ba%pD%kfNs0TB+hZ6ls[uHz3V
sWfwLoNtp0GGH^Dc9gbF(C0<w%:7<feS.!IQKZZLak2m>l%SM|vB2|K;oRhvvqr0NIT..x_W>MRojVfmxqRKMr[)rxuWj=68x$;~._>1EL>x~rcc)Xr]v~0
GSGT~RZ2!U5t!cE67gTwg7%wyqitPMa<rI79rTn2VRJpSKuMJ2EIB;,iD,<Z^L4~0|)C=+LzpILALSo1>2e$ey%q10Xptj&lUH2L!!?^AcP[ou+HgwEVQ4L
2CqofKpmRYLUnnCLF]Z,r,6!R&pF|VKUW31u^4N)i5%TM26pWpQf7&?bXdklWm%arWbc(5AVM=E:mS5r=l[.8GeCPF=^n?jT3GD.iH2M1pE*rMQ^p;FvF$]
7zUgI_+YEL+hQVV=DkSoLQ5=c>054od?L~v2K3^_ah4I3WX|W=L[uA,&g0<+U[t^eqHjherK]YFqSTTd4hzVFKjUkoSUlWIP<e~~:i<].F.QJRaS;44pAUL
$tLddFWtf_BeLzx2p[J=oAztB!Yb_Ky4u|Xsme]t=HRj:R?.V[9WGA<R?+=vgfNsmYvKCdJfHE(ibdHEAG1~[v]*lZ)7%Bf(C|vwCe>~LV7]~30WQOG$Mtl
q$DB~UamQq!KzHg[*IuQ[Xp<i_oHAwZZhc!nwoFN<kON+B^HkilBRN8h=[j)?D,K!<yBmahO&CT|WJSAl=5^X(nW^q(bSZFvMj399g(J9HQKm_K%2qvii>4
Kkq.e>ow!+ZD|.M~KxD:wh%+%msHRD7chWgGz7gjMWqGlA?;WcMJUquT;*p<lK,x.Uad9,0l!qWlCRi+^TUpCy9h7da]FhY3gScnP|ZPODAd>fbYglS.__g
ml[h4EUKWKsJ=kDSnkT6wQuc>aYW~N^tR6EEGgyqat=ii&G7BMND_l)kIrt]6boi!GReurQ(DiFbzOlzEG97AG1L4v2B|Kn*%.2y32DMa<yaql%4rSG4L;P
+Zm8o5+)Le%ntn$0R;q7abJb1woZtO~*bLJn.WWy+$Ps,tjl;i21P3h?41hU6|:&PAzIt$fqheLkM(LJ|?Q%qeG|;Kp8aBuvw(p_GE2&18N&gs.Ut[CtBI?
f)]*GUeFPQi=W3a%._xbC68(VQ6)Bnxt=9j!VgF+W~!IBQc58du%hfcc;63=AFp1~ZS]_yk94tCoChSUxKTiSh&WM,2|1~s7wO)gw[W.FRu^0TBrZoZQQXz
vx+sByg(u]r!Y.ubsM>tfs&5UtsMMMk8u[Rz~RE3YTgW2I7sVRDYq<zo6N9K_nY*94:,DAvaF~MI[>K(PskXaeV!mKElgakj.eFfs4CQ2<%%,6CD+n_Ww5U
3~?kS|=xE8,!9]H|J4i.e7O[;&;_Ay?>0+OrtLudw(PQpiC(u_K1F5CY~;bvpLE_%VZ>yKSIlSf$P%EkakG1QL9T~pF$=j;bWmm7>l+b&NPqFubgNVGx2_S
x7YvRYMDJvtqacAb~csyRKuHCjvu_BBZ$ajC.lRzZtczd2.v_koD4;Gr[fx?!KdnK9|kw]iLbC?Cy5sX|.D^zga:l&,GL&6*l]qb:,kLUZGD3PxS3862~QH
|kgn]ZQo^^F4d?u6<f|b,PYz(fRpBbXSFnyq9t25DPm)(XrJ,&o<T;hNX|x03$y)2ipH&|vBPHlwCb3p&D1TodrKRO|0*)Jc;47eh[x<zHP%LJnZ8!|[Gxz
FWa~Hmvi8P6f[.&Vy1940Mi0|7ozfNDW).hv|hQmM57mFshigTi4r7Rq4lEtX1l$.BvXTuQgmOJW0dF|czgLskKV1>VIxU&MSWDKs[0yrszx)~mp,)v5Ft&
+)ZVHn.5bm!4jpyeen56ZP:sw])<lBytg>BJbN9e+lZGlF&UhObTl_7bMO8hXcb;Z+3Y*WLxXq8ZI]f%EkcdXZjImC3H^L$h|&hemaCA1C00m$1y1kPt?lC
7zSxO0E29llNobcHHP(mGyLj%mBKvkj[_nsMF[PAETR%g]hVI)9+uA!dD(!<?Tz67jw=.ES2J5BiR~kE5_mjIGS4RY:HX3&FL)8jCgc!yh*SMM^[DB%JGj9
K++Ct[>QdwIZ8>Ws%yPYiU8lT3+yFR)_ChzNEpGR*EA74.xTw<vATB%~r^?paR6OBfyj8.%~e:O)F,rPnCX>UCex*+quh]YCvV<S^z*9Tq*|MX_1<5vSd^N
4Y$^JET1acdT7nFMG?x^iuf:YEG:f!fiQQ:Z$a3UJtOR+XNXT2_B:eT9VNG)m,[VvA>UVDu[E4$ExhTE%..~&?QF3&sD~*?w7*)vz7UD*JOT|5fQTJ+Lz|Y
1HL[X3i.H*ss*A|>~Tc2LKm;yKYuo_wnN7%v)?F=]VGfm8v;(fA=t4uzK&x<ooDMrA%;.8r6<LxwH).rBn+!%=G2x1+xC[^5xkLWZu_hziS|7kxT1w6sYIm
&.]x;smk]s4I<(!(+tBl$OK,JJnmo^cGFOJ.z$$xOX~,p:h(z?(H5(>7dKynyGjAXB~F]*s2qahq(6DHdSSu_2[K*>,0)i|Ifc*n$t?x38lSw*mI1F6?D:&
Pc)+Q,^[qA[yX(RBk1c)y3Z%nUS(Jc._)c<!TS]t<m0E5dp<yBgJ!(C&4LrpQ0DtRIjG58lEe~[A)74H.SaA>;PxF4zB[kCS+&Sp?cm:Pt+OycfkAi%F)%n
ONfky6;9k!P+J3=x63+Cv)N49$X,TZ$hm*RAo<4SR_<_GXxx5ZKRYsBal$FpU$X4LCUX>9z|Yxm;D+%]pOyO&BWDcJxJPJYJ*;dO&cq~9~t0bMUnO+UO[F:
e4m<gTV8S6^9km,5C!&m!Yma]<?fXV=>X$TKXzwL]zonO1)>x=K[=|C0M)pQj9H^McUqjs3wEf3[Hw.Y7^$|*0<.8rpB8;lP!m[j0wIB9aQU&3FI&s(Olp7
D%^+1JgV]!uo_bjOgQ7j!_OkSORR^*9!oP3[%%g+IawlL8b~4KU1Pp0B4(ql9vIcW.P!e&q5A_dsWC0uN<A80jsrJ;)]qw>(4TA*~yGCx[non%F&m_9IKm?
zP3j%$K,Z9SsZLRwTnADFcf6R0.~kK|0YPS.cT6jcl32s2b1I|%zX+Hor0prpgK,FbxhIxg.!g$ld>q~bk3lBzC|,EcT1sfn5mV]i:S%5jY%+jqnZTeN|^p
$%_mu^uWW<!Ml7wLanIVXl1?)MfXGS+VvE1~%JlrnH]65D*ReVgp*GPj0IZJ$3%%M&.NYznD!aZy=ygbGJJ?Ak47H_0~B7$_T<.TEK9q1>ejr3Wxwi,9Vfe
~qAJa.%MlfS4coI:lb9fKt[gx,N&.[0=0(h>A,:^oR*CD~PHgEc+.gjdR3<G&gJh,bXX_8](MRPSnfXGDmbs(:v_WQcW7M4bu!Pz^S<9:(Slsw00*x1oL;S
S]vs$^Nwq,mP8Zi=ApgJeXl%QA^T<mI^eN7r2Dlr^$oe5WA>MC*qi:f^OBlV0I7mbuX1S8oK9ftJwHWutfK)4l_Gtp^RWow1VY;,74u1iwjXm%]Udv;nowU
3t8az1>fAlV,(t:])+wCf$5>=hGj.]AnYCT_No5M>ot7ZXu[7(n:b[gY*9B4=*c&[oG~FiuWWQ>PxoO621x5|$AZmCL(rff3M+Uk2oPblm3kds&bfAyQ]dG
K92JWq+^$m~A[7:7~jbFQ=2y>|.6gH&f%?jS$Q7WjEn_qU<o5rOX*Cf%jgF~.fDjpm2+:rsEv*e^;tB=JbdGEHz&e9&i%QJ>&?OS|f,Ew]rC6;R!_&V9JKv
R^?>k=]pkOeolHo&mxK:4pc8cCb%?rJ?$:K~T.4YW3B;x&)$ug9c|94]:]eJ?&6_j?]t;dv=ZdMz9^X(K=W=s=F*tcue29DU3W14VjevTZ^mnH+jQ^LZ0,m
ArQkqxg,1l!Flsa0,]YL7>z!EtAGtK9yzE0(Vq>Wq<fA^O(k[2i;Ww<L)Niqo|<rzhVUgKXYT2m<0a>ECDFgBwFAFNH<qw)ecimI2lA4Ec)2ZRCK9OaWob]
5h7KAI?nHD|yk.o)$.a(7Q9v6ey|E7]r,e7FxV3PRQqWp+3p98x:ns.)!mC1eTSKPULBTAs:vWixOU7C67Pm]EwZ|jtzPq|rUhK[eNUE1.(x$su)0?b_~My
tV!b)IDQLdED3:gwYD6Wj1a8G?_X0U&+l4s:sm9<sC?Fe.:!Ca|&bZ]sN[k^lI>+kid]KT(4!U9&QoVBEMVkgtR<V=|TumiNCTd0F8FVD|w$w,ohAW:nLoW
mNs!~EOxa>Y7C=yA0ve8,$n2nnS*u]yeQJn.*!75;pE*Sh*K?~j9qat>fw[JhDUa5JTp?K&x[~QhUSalILwO:.dGulhX9<3a,.|qumf.V+C2d9OxXkSB+CF
FB2pX[Z_|IL(i>S<h[2qlj)zL2Z4S,mHlpExhbB8zR_1Ur7s95A+aKnqzOSws+eoC^g.i|p0]CS&%gn<IH4ECIT!Z>PXaz9p~.Jfg|Duc,b]Ps9r4g!D8r)
dGvmiPq~B_slIOYTKTiNFSGl1o~y.e%Qg;pg~7V(X3&vSepilz_^qLA:nqn>;|pt+4[Pm9nrxmguw<+m5|!E_?yU_m_|G6,j8%OLwyB)>s:=QjC=pU&DlH+
D3!5T5U$]z+i%[KMhVQC!k;K]>OvOBEaP~_>%lpDwg|:=(^ZHg!jWHc=MPDC^M]$=2i&75Rg=0K&h,bHyZuKw]ukIJ~O5g,$GPtV<JRy=0V;xEfl*&i.ld*
p9;4;hR(tG2Z,&&cXqBN?ZueOQuPpL7(^is<t+%^)b!^^LgnkLq_X7T2$7F!Nj:vq%PKgLb2.cYoG<ny9F]r9:b$8=$I]lqor]]*jLNLN~Xosm^;41;]O+f
F]a,PhjYz[a88Jb9?mEf3ON.oUarhZ7UFqS3^4eBa4Jgt,E+~uM,,5K^D8IsQ?=*Ne3fo0>,Ju64w>qVO*P9jU^c%w*~Eda9|ML~BNN[PUJONB|:Bh~ffEY
<d7aOtWa4s3du]q]xA??m;>+J6Oxymy~apeiL$kVsa!DRDEToo7.;r,,V*+XYh|2ts&9Qp%_DLy*CcF1RgfrgI%v1&egi*Vx*(_bRg_k)4%D>DU<w+7v]A$
IMpPgs2.IlFs)q9l!9c|F$%A1Z*&^4,?6%9^&^:i&JvkL(*xmu9x)ada)R*&n3GIiUI9x%+|*S3EFvk,z6RH=N,g&n*IQuG)hFL]X^1U=oLi9&Xe~uF2<*y
=cG<61wrq(Wnuk8XpNeY%d!?mCzOI81>GvGL8cyQ8+n$L]WB$EEzWJSZLrn8eRQlj[jA%Q4CWQtQ3T?&?z*+mS&LC90ewuK$Ec)(5H,jAi2i7S1g!]Hxm]f
tlhBn?b43$OTM|HsD:zNY1vQOj2Ch3j~Q+40r$*Yw3NuDmJZ|&slD,i?F,D<VSG)N7.AuU_d0$?%YNp8qUO_l=FCzT(&t*EQDFLL$:rSzLA:T$721yiz^gv
FEWvS3y_,kb7Xk=&=4KbJT&^orEcKPC0P+[=wKj0Ri,Ag(2Lr,&9f>sPvP|EQiOm=*a,W+ng0r_6NmCODYJz43LezsE*6o!.NLS*Iue!YEm9bnW3$_W8_NO
UTalg&a[:BEEwOJ$bRi(4Ge!wK4J+wV7.7=3*ZgR7nOC9;$Q7s).qRY?5bAffmYA|G>*9raH,ypl,Ke^Qfj^gO~Hz$kBEtLX0X6g|o(_XWD)7t.YvxW.N3&
fOHHZ(|ji52z)SZ|MmW&BI,0:hkZ&DvRMK<hBzBrH*P99T$?*d5Y9i$&&$2(!2Ya=|i<<Shtr:HK0t>IGJ_ZY]K<aYlkCIR[kW8I]l(c_!xP>$=~Y~fXfNh
?B|oF7$5w2.PvK+rdANE>%^Im_J^<gPjCof*MaA]VSZ]Yz56AZ~l~x_z2f.uo$T4v1u2|loAUCVUbkywA39Z6<1adR0S(l&JD)5]|AKQNn3fY<7<AghfrGe
MSX5(AYQ.XwSxs>eWfewl.02GSEQzHVS~ACKf$W0mEG):lN2zZvu?)c*g~Yo~woOyVg8|3~pqq*Khm6kF;!+;V:<Yw9UEyc?NkIdy^Q,3Om>LsiU|LUmDyr
[cxR8U8C%>KpMO$f|!n2]So]j>bdoPmA1gD_JFylVpw%=!eG4M_)5^$]>sHRj!%ZLgsw=L$m8)>3,V_6jC7ptNb.Y~ds,nxQicCaW(Xug7y%8bCwcj9IwNx
2(ixhW6<kmIY&M0LPW!MQH<Eus>~8[VPAs1(1jT81m0Meb.tZ0??e1x87sOXJMV9[bonRCGj[:=Vxif)r)!67k)lkn2UC6cER_p3pA$fORcaIh?F$CVq2(A
k=Ztp7OaV5_>0LU=WcR^.i%DOqx5bEB[~0uww!!;^[b6|TsXsix]*7rKjq2==%TxK8Jr,942fwtwv*Wcx?+4+!vLWRJ!d8I)IiRY1QHJEP$mI>jxFc92fMz
1In,1drf$*%*_0(GgxfCV%ku:ms8R5E|q?tYf0r_0=nd%4bK=4x4Z%13WKt&f0%TIg0nNGHWbap_)xbrR+tvz;!xELbhso;TAmeE(h<ofA0Ds,f7[<98.ma
$IZ*~FCo,Sd>F&i(!!iFx0oXK$88FJ^uLBu|ap?!FU[4c4q^1*fZ~b+r%eI(F8r[MOan>kM>6d)0Nz+E~,H=x=MyN>hK7;9prDnplDoRjNEGBtH;ZUZ_xuf
$ic4HXbx?d)KstvVq&13Z^<RH2UCExcZXmf,*QVAQq^a+~o[,>rS(f7rnZO8a=U91N1ClkDEba,waPs6_EVeM8G&UY?n.Vno](EU<dK;a?;&D_?=PD7MiMm
5$TLd4(eErE?[:LWnuyqGYZS%7In1jFhc>9)Fj9E+H_oQ.1ngPDUeZleG!KRUwbUa8fmAkhE~1<1d?U,4ewd[:?AkQ+.+jB9zIU$OB=o3<aN!QjQr%Dl+uO
RqkihmNYN$Et?MOT0q8|1yzYfe4(of:CZ*H+0u<Z0[$3><,g1yfzvaX%%J?Zfc+4tfv$w1=>oXyOapu6OZ1da.41hY=6?0M3gGA]a$MCuv3%Mir%]$AJwi%
^NV6=oBlS3vb2<^1=UmY|J=ZCgmHtTX0mf.Usz:qgKVNG66Yo3J,=6x(rlw^JN.5sTrOmP+~|O2<5:yVWo10V+)0sZgZauwYx&Ypo_B0gX%~!O:%;+:dNm0
WP>t:(rTZSa5.I+=61sv0e1Re7;MP9o,ucV~kltYr5yK+^QhDnHN8,%ayXXt_UOakdr0uK5QINUi7JSfCvNml,y3I1.)~a>p9];hPuPi<Ra2%zm;d]pElIF
*v^!s)Be3?3ic?gkSBiTpCZS~U=t+k?Rmax3A5=sy9cDW6lhM?Djqa34t]hM|+,51]2~s)T:.F8j2Yx*F~;l3OLTERxOi%$r:coY)Ov&0_B_H2yw?hr9EZL
|DX|b93Ns<,HlH9YQI=^WwEIqy|Y:Vk>&h&bvD51~Hvn]_H:U]9;9mJ3;mSk+C_wpxGaMam9jkuIegsMx:L>+cV&ux1~=YJzlxwom&FOJU6Vp,=GD<OChou
&jeb;ZYvKBGnJISLj[8BS^C~?<p;bPlOMX^+ksUDfci*1EMkDswN[Te$j0l*7xAoDY03|;qq!xV,zueIe;tivUTv25<NFG):g]T3y4?jKx.FV65_unN^CM_
7>iKM%)|LbY8&yvH,b,H+,*WlD*Ey%u9Jd71m;WFka0E=xHotan=I3I(h5JJ:r>~B$+V8%bx,:<lmfd.+xo9?09[QN?sfii4868tIuejiY%9[MxUUS=l*%Z
g|mAwGn%$6M7lx4SQl~*t1BWK=5CA:DG:jJ.<G,9dbtJ7AV(Hf*Wz$y8CG<*s$~XB1i;$Y*9[%,WK?bt4nCrie:xTIA+Kbn$^G8W2T%Yk5kl[.(Am^%[Pqj
JQ&e29nCiZbW2,+Y|7WSJal?ea8u+FCs2$<8h71[:$=(VY|7p*$|+DZRVGY^r1_1I)17kY40*7UyG*T$)$znKPPY0)Vk0K]pM:g9m,6brWcaqF(h,P5yKj9
f?|?1cm>VLj8mC$2O7>VSqp+*E56Y6;91$RX0gDT5Dp*6&0eAL|y,I50VFlDt[CRBMt!m97<JolGt6S4(g9+LUBL1z=K$Ap<*W~ID3+Wwy0ci+ox)tdedV,
]FjOUi65CsDw??elkEiw_f71Vc_0R*XNn:u:tR,.!wfKO7pSM=WEAzTf)g$o5JrRvY~D5HX_:Z1[~Zbuskd4<DF,j?[Hi01+RF$w>WK2wjOD.)qTa|=Tnow
Hwg,N$sx:AF~(rjRUW0xikYe~G&n*?Y2fI=Zc!6cE~3E+&[O4a(~8f$,2ow;I(aZtl2o?0M9T,.Q[Qz|t>76i$WZFiVTtzI4zjJu$&^~p5oVJJ6r<rK;i?J
.[^Lwg)C244<x~h:whUjC]Qfa_Du^X5J>:Zz,wiHqGK3tCX,e,Q,p*%mm*uGgsZrAo9i[k?4+R^wQSgt]<E05|LuEB~[P=YHG8MW^L]uM~3~9yeMv*)yWxH
4%5ioa!xW~kj.Ay2HA(D^DN.sGCNEx=woOca$ch?wIbT]%T;gD88ZXML116&?Tqlz11O15m4scCG)az)XFinqRTKGTamuf&CTBcS7cZed?4,:+<?G1BfV+c
?L^d3Y3uDW:j4Ys]*Qxc8[R&6M>n<mBE4|LBaq<fa*ZBPF!^tgetvwl<mn5<fe_90(Q<ritlg]PQW!&FH(v~=nY>F]]8qUK7+2&]SakjCn**8.HHJU]3q6S
IrBEGQ~R+o,t|xH(Jbhm<fAn8~24WC55JyX>n?_H_xh~o9;rx8HN]MgGt2f^T$%[BuJg1E>>T9D,[^mAzk,^Vg5B)OLtMd*.1637R65Bh^<T,*~sus]x878
f^vJ&l?b|mM>TN28]kX(6I;FrYuj=Cu0N13qA:N^[PizdY.](*?Xnv1Avs[CzlJEcxpET)9u%BqbnM,cux>_*Ek~P1eVy5S6(5LE_G[B+Oatdiy4f>8M,$=
F^|3F^eC~UgqJNexB.pojS^hZ3vmh3N2v~(p.+r$M:FGs(5;Dwmgb+=G~S71*wpU$%jH^=aKS$fauxs3^zH0I5Kwt<JUeSbfzW2U~RBJ7L%cgb[?)CK]Uzx
|X&~<wRY+FJcnj0v2n1APsEGbo!<yy|uC3|S~b&mWYm*%R]lA*I]_(j(gfKIdOwAUV*AN+9h1Msw[_F6?Q]az5E,)1qvJ~5kyR(V_jDgX:95>4f_,V0bL|[
S2EBx4Ke*O760D3$)q(xN^W9RzBQOTa<A0!LPIDMs(X8OMRA7^qF1a&A?1i0.>PL,ppL79^:Zyq:t3ug+a=2%vl<qM7t:_4+.~Dn_M&H^:^[l=ezuFfY5!O
9g4vPI!nYOGQ1_Sa9YagZ$Z!T:ygX*]9Ym<DV_2rg!)^cPkW%Rg^a9EpBnfEj*G71Tf)rlUbXBlEVN<(_+Un5w6*)tJONcf8]d(=07wX_h3g|z[wr5XA%a=
Kp<Qa<WB;!~!e:F1H=C63B.AUWUEn=Y!s_g&f?UcVx^$UWqT=?_ERhqFrW6D86Kp=o]P5M+ME!nk$d(mW!m:6;HtyqyfYp=J])V!Lj>IgZGA)ZmADs?l7jW
R.z~sIugvL4caS8%A]x!vC%nuYb$5H;9j*cH$GApdRvsB0xJdSzF5X~v_r.G9RnD]5)*3l(fS%BqURYG:rgue3K5izno>z>.&AE$uRjIk1zj1%Fws0P*^$i
AN=!swhN%O^IHMsLA+l0G8mGUz1gX(OhG^^ij*B[zfFQxqI(ubFpurhRpWy,klp,2tuqv&w&6!KSosMbcAMt%]sbz:s_!JVM~PM,v&MgTKP1JB)|O]5[YO:
>yI;urIfh,ORmbXRK|jU+V<ORdZ^tkONXoqi:slT5De4M8!5J8?=uO1sq^4Q,oK;8zZ0Bry]zSrVJCmH?KMKI9bgVGhwn]4lICB+LK)9C);_RT4avFk$ayr
AKs,u*DMg2l^IK1)Err!%vEYYwWppICZqK~[KVsSgn4LM:]=[*).ZxDVpOu2d(TT)APp=:_;b|sc3gh4>9ps?U?u,8W2^p6sblk_l9Jz_tFs<Q7H12PpU*|
)tGt.B.]yWa48A2H)%e[z_y4d6tn7_o|9EfB)ca,s3zUM11:I6M%0CbQJZ6%,ap6P!On[Vn(<xO%+T7)eUSFvaTl1g+.X(CZ1tB70y|sT6&Z&1(t0B1!LoL
UUmr&$R;f~QTSimiMTMO<w.Q7;MZip+DDdaQ?PpbhOe;ARNtv>A3rXZeT<v^,~FYfxf5GyKp_RUU2)HV<];>y2+[^rSo>QNohRwe7z2yT9dD&1uF5^Ie.I3
by.AZXyS7YKudWf6sIsyWEh[vUM:Qc|j6&8WAel[+Lux5Qy&6kpl_zDcmFXLkHO$i)WEZ53*VpApc<tP,4w%LKMs5vl_3:6ye(1QuYe?5Ovb:V>_uG2ivx<
o%:<)6j.H6VPVjvL2z&1VU4xq~Ji04%CG9qQ%vd^Qn:L=t|0LiEu.k~w2jo1kYS5xbD7:~y?e%x&XuWk)%X*U2gPzr1lOMw[nr.+wELi.jzFpSXD+&>Z!ae
J+4?!t7tHl$E!vzZ_Mm(d~Ae|C&rszVwyU;+=HjZsZjd(YYEb&%7BUp_b~6xX9<ax5_VsBdE5PSg5)1]A|GrU%hqMSOc59X7+_PM^WA<;N4iOW,re!Rpn28
HlB.X:2ONo^FYD)Zqz[w%7V+?V0MOpiCMM+j2vx$^yX:lt3]zI2^Kb.fm&~bf6&*ZuJI*R|;ARLh>1vZM&T[3kV?WC(,T2DEt[X;WMkDqRg*eTa5u!u4Zvc
RwxhC.CD=>V*($Xb[Q%0rp*TM1]HtHaG>E)Jk!cjAvlWuqn.tcuwk8sHIl[Y3FGYmKzz4GmYE>68=[fi9S~HGb.k4O7JpZ9tN?u>V6;~^SI^6l+7|>AVCb_
Gt]|CJOWwv(h<yA,KwduBLmKnlYrTV]dDa8S7+5w,.Ha~Pb<RAa&C4>bTtaCPp.l%Chl2kP,8$3HOdDi^=|(=58kM|:Poh2UBA;YvU0SnG]JR|_hy;P?IP=
V&3?[1Vd=n:noshTf1k~NR=dYQ8UX;NMRI($mR,$F(V0^nz:m;|0P5r;qw<<fUwGw8xx2lAH4K]f>(N[)Ah~L5Z>;6+Ll87y%6Ou]*]RTL+rO?)9U9h[rl]
%(p1soqp,Xub^$%U)=Y,~^)F+~!Fgfm~+>IYw.L8wv_[2)gJ_R$cCD_yx%,*s62,b+Nev58AhxX.u;3[1=qGSD4gr4g,iT]FA|xPr?|EKwBSA=DSU;F|XJx
D1OrG+?>KqcWN.WVa1t:joVLLnL^+D^YFC]1h8Swo_=!oFs|u[uwOkA%G4&xDAvQ%3vtR;x9^A+6W]JOR?T7?D)1l?%ef?VNpy6.Zq(r%f4O:63NCD0T4:?
u[q6l=YHRcXUy[w.kV<8^~=T>:epSNzY[=zCgB3+j,lMm7FoMNw.v)vi(,[T:Jaj0qUkf=[$~8k>fQbhjz*CcL$>JL[Sflakc2KuI6ge|wTaqDu?+p]UyZ0
vaw3oN?.=vG,;LZ.N|,QxkM8%)lX>0oeu4~ev0aU3Y(k^:jCT0G<RYZrUiUcf$<mwqU3%a4U%n~w*[[g[j?_wSCaBPdH[:9kI(yFo8d0)bwa]PTc!o0G0wg
6wZWy7=wFo?aGf9GrZd<0oSEf<>!s<Y18kJutA0akF_BtG+61^P7,j=xtS4.DQnPUYhFVNf[K!|z6>_o9GcL(WL0y)gatFM+$Vq=Ub(m;QRv_qQgBQ$IqF*
),aQZwf0<G|wu]=FOR]f9K+|03~YpTld=ZExi_1a3*|J2%NAwnO[Dt;kYb_ux5EY_Qj*KLeT*sa>|iR!4M7LS%uAQ1v7C<^uCfNgWsTktInOuq+MP8,j.e3
_.q[q5O4F7ok[d4lw<:6;KG1bXWrT0g&yuo^=*n!1wRdK;Nu4[%[Fhz*v*e0aVd_i)r8d6%_FuYEX!v%<aM2g12]6MA8|x%m?tF;n$z6:1sXzCc(GR?6iH7
~6F(AXg&5$Y%Op+nl6]]upBs=8^XB;lsaz,G>sU[j=7RZ2.Rh~[Ti&fim1YO!_cgW;~Z(tP*t%7&Hae:eFos|rADd]_id)qK;kY.(Tc3_jaDuq;[gstGmj4
OYdz0%_vB[V,in1*2Zi?O=<l$1Xx2sjv^YZwaFVoT?LX42Ex4>TG|<F+|snNca4<7Vv6bN)kj?skPeRyXD[)hX!!R3.$%eEPY&VyV,mGdj+*VsUbZWhrBWx
v6!nZvU..n1yf^P~8+wPr!Sgm6iDSeDW4uM)zrn>Zv>)icAIvDl?aXVbtO~3qk1B^9aUnX0l&3gxi,BDhLwNN_VHFRp78K&y&XCak0dCZzPW3)Z~A^()M+>
4r2]],O_PbD1fDx=hSD:*JnAEjM+&66WK4Ctc|GWF&%=P)S[hIJ&_e7]F<.8z(W|alyRi.Y8zyCb|*ox$6HV;G6cpf>7S;EG%Wy7w^E(<W0c%!(=jc]z5)p
UX~hWqcgz]))4Q]0S^qI)VZd!Mhu.hC(pDguIBZtpeu&$t=GJAbCN<k!qrDlML=o6LpwGJ.,9&|qCH(hz=KxrgS(B8Or9P]fGwczg3*&Yt,t=6nyAGh8dz?
D]$]6Bk7*BLqj5tkIcYi$D+pp,;b[KuDKpMcPD]&1TdXnDov:^*dY*p;o^5)n81sDD<MP4.%^c,I(X)u^tny*JmQTFMJhs.5,ww|eve3>O1<f)b);k]TpgH
Fu_Eqb2c$QJKmF32=?Mg.,r*8AdRWG9I_BT8:k(3Z=o|0eo,psCo<!)OGjSWN3~CL4wmqee]~No|3bi?%A8mo*=0:41zJEXvv6~h|e>,FxU=exew|ojDRC=
]34Uq3H[%,NuNQUJlWXo;!s3XWxvSV|q%uPVOS!>7)_W&G:TlclHxUj,?agsyPeeKH0J3dsO;+b]1Bu~Qnj132SMN;em+ar*v:Xp3DuR1yyxxbNWCQPox3e
4S^G;KS1]?3)8Fd%FF[1=2zka~2Uv)80>Vm[9Wf=<:,SsG6S:QUC~T[y~05Bb,Lq)j48u*?%:hYt5K[|,y_>K;unZ,vEipuu[k%![*pyS[x[n;auk|f^ICq
JfWgiW7g]WdS)MU;Go4(RreV0iIpZ%1h7gIO^70vZho)xYP[%;m]ug+(RYI==*OJ8vhV)0cwO*J8eQ%JYK|em.w*vNML&Tb8A*_;*KyA<r$<kep!BrGF<Rw
)&Vg$g;Y1avZjv4vaFw]|LOQQ$c5,.&SG).eH9zKwptY;Hk?yDjHJ.R4><(:=:z0q&iW9PfjmmuGlB;84:Doj*A8=Pvf2N)sHT%~~KGI>N4uYDKqCd9xLbg
<tuC[un3Oy|z8F7RBsPQpdsJ4v_:jE5Br2(qwtTdY%;r;86f0re,Oh^KylW.VS+4:s?=r=DU^1t^O63,U_<^~t^7oqDmQmco+>?$*1M0m0:f?(W(zR9Tfsm
kI;H7AgddJ]0>S8U:L3[L,Dw9nQ<..ZYMna2V3>5W[A:VK3wK(hoBe>((pt.Yn)Vp%Y(X2ho|bNTxMXKX&_Mz,Md!cP$3i8<n<yl<bMU)a~G9[ZhVz%sEh>
Y5m+&&T$t+7GNgV,6ye03ch3c9w+%gIV+CYL34s+O4T^J=q9ty~HOUUA,1G936xj^KYTdNZT4Z1%c]z;NK?J9:A|D7B:4~tX0uw(g3t6[X<89WQv[c3|iIw
SIi:qKnALAZ.SS69sAh6S^Z~b]cyW&HmX55F&1e^DFtye*oI[PBIli^+d;GRS=e<otyxt2]!GCvZcO,)tE|;&CyR$Qb*l]B.GV>X+*%N[w~;Qgk.(g$[v>P
3]DO(T(1H+mc3d+I^6~gZN=YVF]41RQ(t8ytKTnP*;sf2;g.p?]q%d5L_I5iO9lhwDWE~+?*71Md1C;TL<++7_H:&+8ZV]b!zeN<?7v?o)bsb~$,Oar|V9H
3zv~Ao3w.0J.;?Ul9BQvy!=z5o4::n>[qv,R5;m0*rV[OnSq$sm[dKnB4Rad(Jf9=hZj6FHK?9YeY.vu(e$4]X3RdkEi&A!I_Ex!|?olrEH:|zx~+DQ?n>k
7Hkx.yF!+v+=Y[w|N.:$Wpp[C~eUtz7WhqDQYmhIZ9G5_5m[hez?4x(;s[kpSeOTa8HZu0.+hc+3hyHmzN[g1a[9Z5R_W]D9W[lg7CQ|l^Z2N$D$~hxs_P|
$oPRd1XQ1K(hvMDJuO<YQfqbF~8yHpWZLhZs|i1<](<:aN?7Ty7ksJbesEe0|1gSoi(;,Q=N9<$(HJ6h^J5qXq54RjNTE3oT<7KzeYX:[Jy8u)uzlV;(I>[
pFG|:^_QrZJ$RkI[j3lY1<d0X<*=tVeiZ[)rN:Y=njn7AGom6KGRLa0;!5|mHrqIe6CZ$LNnX%r<vk;hiNk$1jVt|h8tKCD]B[;]$wen+N|bqva%jpSD50,
wzmNiuV_Ct,Y6EAWlWpWg:6KDPk!F1S8U$f[VeHe_xGeJ6*<U:w|ze,ZTA2Z+QW)F^)u+tr_)uN=K<cH8G5YOePh)%dae:GU]V32qQ+q1:L*p4Mnk4ca[A<
8Ooxi)HxW[ZQ>3h~=c~86H>3oI)7tBpNfHp9P|BK70^PVNU81dkJ|cv?OcFMfxa&u$Rx3tk7lQ[n%B)I>rkttdFQ.I$Pf4(t4U;~4&~mR23T9jo%Ez5,khg
;PI0+71a4AwAqhE]xUS6%:KFU%uvF]_6CyE:Aw|KyvheBG%5QGnnc6BgeP)3|Q*r+4A+z8C+h103zQXU5%M4gSRQs1yj+1RK9KQEP470Q*j[xY&zQRCfFsO
?UcmBfOR)JjH$u]EHx_pbZPq(qljR>$2XtSWXIcznhg7A^voPK%5y$u+xW+fHqUB+eGu,lJc2BOF9|Gl>lz.ac0_JLYR~_B.hE9P!~nVM]BA3Q02oKdYL]_
r>C1[luE*k60jRRj(>WAcITJ2|L_g3%^_J^0ooih&JeKdAIH=Z=1LeubWBWu<wQ<zuE=qy<vVuM&~u>06&E1Ob5jT,14IKI*<!DaGV;xmjZ,[x2B^U]F<r3
m;l<3mc!B0TA)+UWE9y.rjl&RCeo)CXssX:sLW>xmjCPgGpE4zagB1gjdLNQktY7=a+q8OEca8,Kl%L>[+S5PU~I?a8(6KFAFxv.1^Vm$k!pWXMcT5JVC!r
|6amFb&DpPghQ1wA3*7G,b&Z<|3;(]uRfK)|J+ok;>8Zfc)d.~;!T,Wzuh<)%co.XtzrrEg&R&_)6L<chVK34FBfchL8EoD~CQ7rEE<lMJR5Ilj[.Qq0C<w
c[1+56rM!yoAHIDiEIgMJ4MRvovoLEk_QUA1sO:r6)dwekJ%C;P)9h!U:b!Zy[qLgzCaYEe]wF]=z5v=]wzX?SXW8+%JMcnQQ3kt0lF,yEfPC+b9Th3l0Nm
mX4BUK8teiu,n%~c9J_McR2dZ*A<Btf?6Eh8SRUp~tW(HS)C**f5hy?L3QI82&*^F7KVFQPl|pX)ZsqeU1JFV!~kFu>ZWwdkTq2bnK3I]a2nZxlU9.uoJL^
.T%J_R62Xv]RHD?cXx[hQZOV2x&fNN*&WE+3KtyMWLQ:;XfqQu!_net=YKMK<NJ;gbo5)wx;Wpcs,0xo+W(,ISnVla1X1v!%_G6W2Z:u?$21Wa;V)PB>1sZ
oLMnjxO4Pv2ciz2zU,5jUgssln&F|3NR|.zKh,|Qsala|SCGQ:X!Sk?7rxDvQ83TB>,kCh*g2^TUshtfJO.xW$yelkh;IrBBsij&2ul_%p6*!LI2qg9i3H<
QbiYzz[QmB*Gn(CBFw71$z)$uHj|JtF,+g>IKpfvDa.eoJN)AT?4fYrg?b6$*gR;6P8HeKVp?s3[!Klm%,k]Nh4pI%[aa)?l)~FGky_zApC7z:X>KCD|n_c
U7v$eLibFIt4Ic1jRVvX*XqAvjtW?Fu?[y5eE?vGZfo2zVo&t,Eb~_r|c>3y&P8I9)6X1NVfCll|,_c~tAj?,D.;wX,71wAiai]^JAcjuFvV1pv~<Vdf)Ry
OFh:QsnMTo0$1v1&(B!Kxw:$,Heb^u^B=pJ4$%!Rg9]DM>ZwzLw;3:<>l(|>_<4HgRhnQOPhR*iPPV:BI(yjP|Sme8[bSRt)*CLTa,[Q=SC;pGefpsIzpVG
%HQ~EX?4ka|mq$>nl4,X9$TS]hT=G;&|34yROC[x.ec;krJ&)KoSNpO?lW.GT_WaPP^;Ubn%Iz,^Ll~3!^XS4Qjsbuw[+9wWQ,BXsL$5hkyjpVXpoF|ie*~
ES25iMRZ4(])WQEw|~TU|?^%f+6_EyrInF.3F:Iy+!!_=Uw.*m;AD]1Ai+jl6|S4,liB6(XbS2L)Xd[eM|v<xV_L^YC)&1rkC<NsDq.+f*awWN?0o9j;A((
$nwFmI[R(^r&Or0Qn*3vZ;=XbEO9o5<x<Pav$DxgpTLDGYcC[8wO]3ZULV1k2!|FH&JNY=p6EoGfhdC%E%03SUVYE,zd?E$6|ymMo>1Cfn_Aoz_2^ySZ;lR
7.)4G$4A1((6Bz)$&!JCf6S4RtBk>Q=w7Z6k!a]kEG<i*,56m1&?eZ*TPxaPVPcYr9Ogl:2Pq!8|H%_0vZVa_IaTt$nfV]_~,|686X,K^6oq1iqP2~uJUa%
>hz~e[&bGF9td!IK03F;Q_7NiD:QH~TRGsW>$cV<CC5gyi=YEq<+qsF+bDvann;J(,]]2X=[.4v%ErBTNt9P:5IGMBroZ9HD%Vi4&GwlvU*M?wf|m4]w[yz
,HP:G+xydK&KWnLW+~^[2VdJ.GdbRY>F?3MvE;Nb?%t+Sw~K;M5mE:O,.G_KD.2!EAhLa<Ra=ST*hC5zuAkY$JKd:=t+N>uWDgJPPOLAAmx?[0CW+2_nfgg
x<QFO&Hh7$g)_XY!T4nL;GT<b9+O[pEQSD5WQ817VZCK?rfy;[z?G(&T9tF>qxlUH0P5|d($].JEnR5S(dLJr:)t;dtA9c>cGVd8zu5[G~qCtYsOIf&N|VD
_&GO&rKEJc9X&f]z?TCP2*jt7mG8b3*hI%YT.6o2EO?e5.MUy6q]b~o)eBuEFhFmTA8,dhZ_16D)%>!EG=idplL%g[)%G1L_]C=W+FlN?9(iLrI^FG.rFt:
yfDf7EtpVDM.FEoB*<JP$p]>~2z$580uXQ1(i]1YogRHbkMX(7h=i4ntRboZ)^P.eKGwID(4S*e>qr>7ER1emb|>:9:C)=X4ZA;3.fduFeLa!<ri78)DK+1
S;1q)fu27l6mJM*vTc)mQws=+N3c,k^4:&Gji_HcIv9Yru5KkITt:EW3_Q<Dt(_jdgMAE;%5^=>L[13REbzIIPpO)6N.uOoiFR^yKC5q~OC>1|Q64J?[qe,
Fi|xfRUpEl:DzZ0%b?F&D,*yb~,3bNI^x2A+_hqV0Dt%M!4n+^|)um<Q&QM?Ugnac0))EX5Q0rEpBy;x5r90X]1*qYe&+9BgLv_Wxr;QG>pZN8c099m9RdN
upKsGd)Fs)_UgqP;owgy.tq)>2V2EB86(>A<x)6~(_vzGau=drViSt+LoyDJactM|c%zE&&S.8Immm3P($POzsV=S7X^w^ugKs.~,zc|~Dx%RhW2l[lQ?uE
c8uu4*A)s5%ZUm+x|i[m4WI%?ox)!yTY53j~|<fl2m7_B.L,8!68q;^L1R8P0ONLZaX&wQk=,t*C&O=qyI&1pwWo%(QFKByOF)zNLDzBXy1b|c6Jp(mBpf_
)aM.WrV;mD$KIhmq%rO)k^o(bukVOL^XDZxo95IHP.o^yw$3hOD.zqjt0M3f64>5mdU!a<BX1~6dWhg|FSPDX[4v[h.[wHrtkivk*?]]ELiKgQW+Lk>TDFx
;0%h_u:NQ;xZ91(!j.+ERSQiq^uBd$~r>:[?jBvVsyO*,G3WE&ZlB:9928bqxfVI4.)HK6Cpun>R8MNK(jUrzbjQA;3j7m[mH31ky%5=r*5lkfBy>e|m9nJ
(R]cNj=:3UDV8a^)1dMK|aBcj>)j_pbv9k6$It+WY%Bo)6Jw^t5w|i5yI|qeB&kgeltz.GoF~s>:qAKyMYd[)0Slo!Y;*,qu!;DFS>c:q]!e8q3nY[Vs+RO
WM8$X*RBEc1vqT%.!:1~mh_]El<2EqGp[[KDU|Wl),|aLV]gv,*i)%$Cs73Tnw&&WCR,*5Qo4B,i|%,BMKFSy+[iWOIvK$80_8qd9Xtv&j?!ml3YXN.uR15
kE|weE7uuO9r<N,8HqI%&+*|stU42SWofRgZ32s1&~lsD,vOPD!_k<jNoVYmiDJU5B=K%A=S[8hXCeya~k8fV%lsG=G?A84>B=5_hRjwf9^<XIU;M7pNaq)
1r[>fHo5*3oe1OOe%Xd0u$FNJbmb1g15w|IS(0D;<Zk4UwrBf%%2a:cP>B8DZJv,x4Nuwsj;Cq?]8CV=d>5iH.|IsZZ8MACr;hJ^%tsq4L2^48VYda+(TgB
TDUHSb)^&pKZc4^6wl)tM&EY6v^!~;O*|!b|wYE*T2ZeKES~]a5W1|KoG9wreX(*c4Usn4iD$bcv,yw,G?*H3]sf~85LaC53G+C9Ebxvb.RyuCD6EDc8+!p
P;K.!CDPWQ),GbV|PI+L(A[EoTCpDrcDVJ!NK7(<occac>oJ?fi56mPW4CH&Oj>depkhZ_.Uz86~c2DOlsOxAdi7W%|cV]JWHY+G$8dqJN_*T$o8,;G%3_1
dEnE=K%xtvu3:Y9T+Go;LvO=Xif(R|?m>G*Ju6u+OYm2_m>+x8v_zmk.RIgLsT6ZajpRrj|nx|HiG2X^1%%h&.K?[(?l$a>c?xpERrg6qSyf(DXavii2o?|
2Y3R6fFy)17BISwg6m$w2wLCvq2hs2ZYzURg<sJckAZUs0?7c):sT;nakziu2Q.OAjZ<AL;)~3XE1*k=PE6Y~z%3XWH<kRH,S(adTCPVOW!~9HD0p>nR6wI
00]Wn&V3DQ_+Ka%6^n>^x=+TdJ~]=J)KF?o,B>etKnK_R,67?W;+FFx+wpMaBg^?w%~L!bZvH]iDQ$W0Y($|?ZQQsB8?xtc.G!xiJ_govc!>RM,;U2MLmNI
(=zaJC9f7u<+4lVCG7C[&&iOnfM8QqBHYluM+U$kxh.H6MyMC,+rXlyk[;o.G(R>Eku)=z[yb7(0xj3XqG[?u[lA?)*+WemQleNKW+sxd08mffeLP_cQKD5
lM^VRj)kve+IbHMwbDa4OVsOUw+_B5)BZ=3mn^E$p|PWr[AE7[xKV5uz)xqHfH$^OZGRS]eO36O176w)J=%Wk%TYoSPutS%35InOmaF%h*6QFi,UJdA2i93
AlXEam;Y2)$MY9C5HHC13*C+x5$SXv8r0P616=m(9VFj)ECec4FIRco:lVC.ZfnI^IaGuH]:m_gnNK2I<4m|<;A*+puv+b:O1Mm]bW&weO(2k>IXyZs0=H[
r:hO)oRy6<Rv!9&K7p]%am&sQiQnM1ka!PvX*fnhdE+kK,fE)ZrE:o[z$ocaVUzC13T*kh<XQ07w(>HTZ>Hs98yB06:ujDGgF!?,f4e(2XTb74Qvn$q?$.x
:GJOk2x;^K!NyTC%mA&;:2A~(R3lp,s6Obcp+[pO*CykP3<1e>U8n8]&_S>Az4aeh,JZx9m1Pwv?1(:5r0;xPWdWPp|)Q5;tbDz>:su<PvYz3JE[?+KZeA?
aJRfX]v&g]K>?R^hWzineL<?]m:?DQ2xg$d8r2ial)?J$Pvzev]xo*4<Fm~2tiwtLRBC(QbHTd&)sr9[Ad[k$e&tU!ql2WJ2rBS2T!%%8Jn;hwYj9if_Aas
mw(%smL9sE[%X?MHOw~?._&*b~2fbhK?]0>fuE_O:8y+7!eXRKEXhRx_=.<z<s5p7ell<_b9N|*zk]NLF%(hTfeU++,4lL|?Li|iwm3P6|5h<^qY;g&eM9,
7WPH:h43kuIi[.0N^6iWCZ(8|cKoj7o5dQ23&&(GnmIqwZXOH8qrE^r*suQnix=!SgwTF]clD00?dhvBx+^sYn]7j&,Ox!uA3R1^K[B]wW44t<61+|cye,p
=GXi_&u66OwkZ>mE[HBYJJN5L0kf3dv&7FUsMl9]Y0t3R>Bw~v7K+hcGzuF0[Y(7TZdghs)<t$5PrFInp7z>1?f,O34Dr5kY3:]xN~k)E0N[fSmhTDCJpap
a:MrN+**I3jySkEP%UUA;m~P:O3K~<[VgV&F+)TQ_Hk%vzA56ect)mV+iMqNctmzgrqN<7N5HKKHw]sNODDGRJ.2&,e0S9D2:!*<~[0[k0p]kH5S,+MXs.k
ui~4I^ER0O$R)o:IZfHHZIjz3wwP&miivu%O,9fo?3AY=ZbEFuG+wsRW0!75Px^Y!7w5i(wbaeu0kF+SEFh23TIvW~|0,EnyivPV_ZZ~j6fN:q:NX[cxm<L
z2IiH1d[a]z((RVPO]!jbYtioqj[EY:2RIPB5D<M,hsjZ&vp1rqn?z]I6&(xXKj!_rCwAa);8s*4bkyJvoVo==>B*CH6N;zjutPYp5j8ba?7KHAejQjX[Z%
uK&ahJcBVwklU?oh(]2yi^:&<Mj<,PFm;N)KP4A:sj3R0I)<>C>c(JOb,n>y&T^^u|y(<.AcX=fr~6)g>>JPEE<5v*:^wL]Yy!Z~J5LR(y719(aMKPRjY>3
5u1as8B5DbHC82xPWF94nRG(uzj|3F?b^KoU6jb|$5di>vC+hPcfJ<D48R7_M%yWgkzCwQ^M5yq6pEARsOKy*[yECWtoIly>d_(RI,FVS.AERE<awfJ>?_A
Xc;rZA&U~vUPjgg8a4hfxl)>QR<pS|MQSV_8Go4Y,V]dTH|ERf~vk$6X(pgd8vI|VcFZ!yaEolIXa^X<0]61qq.Re;887_P%1v>$a6~Vvl)q|I<;ITs:M*?
pjPf1E9h=&zujU.p]~&OZq+;!LUnU|Y!f|IPQw?(Zj%rCW:ktTb;?UzzO+DS$$pSkD;X&2^&conMe_TJaZp*)6WqILIPtPAcC7OAH[,cgr4$rh>AH+qPqp3
zKgOXjHA5E*]M)fz$7w*ooPYIDD&D(UmAL)Vm)uj=6CbntuFZ[aq_kA9XX4qs<C*!cS]eJa~zNDHi;TYSI?pZm~2g[kUOx.UiKo,xJ%FCJGvb!DbSS)?Y33
K.,>:EH<=W!o?Z6J9Z8W0Llt9DuNNH2=7JdeUH=1FK^=%hsa|NHf3=9Ye5m1_?H4n$y35<<8&OgC?nZk[RbBRbDb|DU<^w<=tr7c,1gmVR1Isag__Y[pFu2
*K3:BVwzg:a.Un~l1Iyk3IO3+Z6_0%oEkgfcT2SW:Dp.u>Z4hFur|r)!82y~cE~dcg(I>;QNzo^X.qe^$^83A,KBsR7SN8%N5C$.*;+7L%A29d4!aV+f2T6
Bu2qKT<p+~F;Oza*!(ifOS|fI.WxLvx!OD(B7RtJ?31x<kgr8s6%CRo%Q[OpN=AMYKN!Tkh$8Es1a.L^Ej:H>UaOlX14Xzf[HQ6qH,rqqFjk+r(H2nZ,[:t
6)!KpY6F0QG*cqUOS]4=l?:dl%TNUQ9?rnig58IPL&0>xPabFTtq1q<>E+t(6~eR>]VsUE8jLaUr)h^%Xdz*l10QY$)T!1247,IPb8GON>wCvncms:i]H66
?_VIc4SVeaai4MVTRBxy5LUya$~jjAuK&<dIwdZUVJ$kr27sI,.?puSWP?_eOeevXxh&$%yPfWyus=|<.2Te=Qat~9sQ5fMY%z9U2<,j0hyr)u()e99mKIw
J&0$<Be<lDT|KpS61m)U,_K;U=cJ*Me3d7:$jPl_LflC!F~Z?hgSi=S$S=kvt?e2:_1(m7[ZVj[yEH*l0!!8R])f6HSY%k>M^_54dKSH<F&vI8zEkg5)7!q
HxVbX_93uGmoAC~Y%c5vilC~tODewkYIU.xSLup_U+1Krh38E?9MC2NVX?TIf:sNi0GG44HJyprgvi)7[t|j1,C89by<$$j(f%!?U=nPn=LZ4%wFg3bNY%>
6Rn7d<TG+(7&g_B1JCn*07C,E]>v0.!S[z<SI?<K+IPr:hRcJJ)in,L|K2z:&M9i(hwA0uYa3k*]d=sb6U=3A~1Bscc8yClsYg.H.fYGFLGfD3~U3Vsbq(x
,Y[%0=UEtp.pY+aZVhSCAZteMe7a;xf]s=kp_Bt%0soG|,*2T;p4IOnDAU1kVKxz_,|IMMLP~ev<>+Z?$MqWN_=[uQjx<FlTvH:R^q2y2=)EVsB;xOth~+o
2:Rf4EywXec0F~ZcZn(0>Js(CvzG&)du^=vZ>Cve_OlNhW3x<Sk1Xlk8)Zv)|:jpOv$BUmuarVy%MXd|5?1VRj:??=D3g)2_Wot?8Q2OLNT^7ZeMb3|Xh>n
)=CI0U?)MbEqtU^iAwtxD1]r,*^nx<x^_3t<o=AT^U%(OzTamE+CYAAgQi)^yx_XryUzQqMB5l5y)RiP]9Fy)[)!*Pk$cNB8?xS0TOoDWK7slv2+M*!?4hJ
v>8T|:OMGJ0MElM0O;(^+MbobKX[dCP81zA7O3l1*IKtmysH,FabtP:.nNsV=W>JhZ_5r0Q*MHB?rFwDP)EIl+9zBNP>osk41<7O60NQG$e9=Hu<iW2>J_.
q0|v|x7rKCy&m484AYJh3)h,06FAW=v3>~*8VvArwsDV$NeSf3$Dpeq(m~aXh^5BKe(ZA^KjiClY2E&8zxLJbeY9SoXwz*o5?E5TQRtm(bnCZ&MIW2JnEBW
ffyU7Vu7kD$8WQx]GWtdDg7_e0fxGO5:SLD3DMjGV<Fwg>0p&ITHz,Fe+S_L5CyW<3&,VwJ2=%q1ATP2N1)D8[P<WAuxU5+zSMH?tQa:Y,|^RV4N2o*mGG(
5,2!UB%hYH|W;pA2jh&O?r!,eR>T5_tzT1pD1x7BJD,w|Wwpaw34a$]DPbH>e[h70!JdU1Z=FhZ_6bIa1qNZT~L.A[=$9<mY[&oCsrVQ~J|8(;||Vv6CKTp
nqNEm2&xb5q=:yP!W&VFL.:dw;q%[&P~nIb,4>KzNFI6,!FudGGW>W~&pS24wn%k<E4sf1.PXzlMW>YucJT()ZkhEjx3UXvv>LC*Yk(6%HL*xYgZ=:Hv(k~
H1wiBgS998cQ&4*ot94qM*$bVySCE3B=(ssu(:g)f=kNz<nxk$J,jUO4%[8iCpK*Xccz?W+)sNqvDBnE?0J&6M$Bm6;?rC[IKdW:>9.xU1YwU:BFhjui+DZ
2iZOYV6<kKV%w<WcKpuy?COMO2Z33wX7!_WZ&ZqsGXxLP9z%vL.E~gjK4+$g%,y=dYSPkV_bjyZ^3[$1X~do^3TZ,nCw,tO1w]8=^n1]$yc5Zv,*99e$hw(
N6vE]pL+pD$<a,kVZdQB._d~|LQ(rbo;y0NOxTNHD~IykfpVd<;V5a6l|q~~kxAAFlpA:8=N9~bvZ8WDDrC~162p0:=NgmBL(^zu<e<~1$^?%3V566bai92
=.%3HSNYIA<AZqsd_Lb7&og3FpId^?48H7y+VidW[P;6eM(YUcPjE[U*]1uT6ATZjP7NYEL55YIX,y%0YJqT(Y6)5Nj?BRAXG,w*LgS]!?x!)[X6$rT!AFm
~TFq^ia~3W?eY&b(gK9Oj]^f,.VLE_P<dO(o]h;$DA|myz:Wa(ga3Y<oI&Aoey&Z6xn,H|Y)&~IqqtmBVf9Sj=r6<0PGQMf4G6_B7ZSlDY%zpg*r=~S?%cD
~0%jk]<unx9N[a%GpQBi%I))w.Cc*nb[mLmO+!<^S<WX^32l2XWVNeovt1.*dU][BGbHfnuU8el*<c&?CPhbTb(vNA)<O|tUt<jl0rg;0ZZNEpXw*%a+xyo
eE$0,wzxhHbZH<m3uTi%9unJAPUh$,U:<5gw1pDjfZhM5EinfYyh[.gUKc_pg5]r*5z,tYt(KD1AS9oahk7ioqP>&LEr*Q,tQVlO,5](U6oH,L+C=.40bF<
Abz*[TsR?va_!_MqKMce:VI^7PI(6ahmTM=W&mOg!8H1zmL<6DFLeV44b<m*Kz?H4n?&06nMt1LkZcR<v$4:JMggo~+Drrb^(;DL<!%mw9%VK4onptFPgd)
Si(EpjXbMI,,MtQ1$EW+PaF*V5)Hmq8.B|;+~,G|v?Wkon7Apa.F3,t|~wujO%~Pbi&x5n(:JD68Ri(7ivP1(!lk8C4>djx=kcXP)5,POC5%(dIV,z2dZmT
D|Rn))vslk5hk1sStiA_=Ic=fc^,g0*L^9aC)waSY<JMGGu=T_RHaL;5Vj~Ou8SX>lE3)YYa(z[1v>Ycl4PNqs~gd[74O9(Hw6q|IkmWnkBz2!WdN!jo7iV
%4A!yo_Zv;g|w6~,Hjsf!n4By|n+sUkqsHK4R+aNLej(F(N%]2lfH)>Il0Hp7c&;Mv56cbkg)~b9Z5U8fs|WmqpW6^~fwm]QGPIfq43dOKEnbTcW>cz0fE_
xld3TelO.i7r%aD~nB^k4v~Fcii9Xk?3c4)XP^i_gX=V8kK=7M43)rU,p,D+|*<vO>Z4AU7Oq;rREUkj~Rv6YSIB(ZJZgoVluFW^*^VujgU4ODh2BEr>*Z1
3FklGcHiEi78JfMmVejK:XcJH(fz?;O&cp|fr$p?(i[7Y|_B$ww.McmfE_xuu+GfO?$k%YpHssn&2:jxdbJepaj2Dd?wWV_P0$2WIxeL<YqlYJwerXwLOXg
UtAYmcx9lx0zVxqg2:~7i%z|dPWJYd1d|BL.Ag2kp3uCd,<!4NeZ$|jDtvV%9z(lvO>]z?AP.LAb$t5|?;T^E^!l0ZI~LYbPuOHcP%.E[,5ddSv4%F>XeyV
z!jE%yH17PIJl]7u]JU^!8,q0s_*eUV:wg)S(zjqYw.PfsjLmEgd>x!ifVf1S!uvm>*%<RlWn;|=3ExZWt==b9GZ3Qoo82xRUtX~*J6!$e~lh[T=HI6Qhqv
K![JX)AggM6tq7Aj&j.YFn(e6FM^*_,JOH;e[KOI>A2Z;w.h25vCSJr2B[y+!Yv~JGpdV1b6+XI;lBJQiSY?UML!6E?+Qy<7%*cKYH&ssSQ%~A8!%Nzdr<&
mkLRS_FgsHSBVkh%A]4S+o>eL192)hxw]chiXmbCZ_1vLMteSJZt=ly|aY)afDNgToGikczi;SIc6uaCUcGj(V>9*qU%gpxYx7G:+OXyiAU[:3AE[&jrfYW
<u((|pp;dW)cD8!Te5gs(h>~BL1~,hSlsj!)Ccq<EPU5na2IVU<tQ0M6Nsyd6O~yzc&fURa)0!|utfiAoc?%!C~<oG|Id2;Gd31Y*Iv|d5_ZoECJ4k4Im4H
T09vqt3Jy)l(;:JiqH+J]NG9FYqeo!KH1]IwrYUs|yIKqljgBf.ww2xnny)?E!9&3PEHp~QsD(QPzsF~F~u:0P3a>LZeiAr!)f3*kN.rbsC^?;6ee=+zFAV
cn6KT+R^4H^&[4Rs::B$weKw0%d>[h8]hrf&zBwq5O5y]Nv?hJvyNqoo3QfHIN&s(RIBpGJ3gZWQSaa,]($9;y%3BC6_rU3OgdNc4HXTH<jLJ$K3ns!mvPF
3jE%I=;vaF[y_CQvcU0E!Fd5VUVJYpSic*ZA:qhpM7=+,s7A>Qaq_n)v5BgkIX^9KQr1HK8a:aifxn.TcnS13Y.f7F2tctC:][cU_Z~Xf?gR)C*73e2$63T
X,?HT!]yZKzWR+_4naZzPz.bq2x(oc%:AAq5N[1dj:AOq.A4W+xTu+4!m~0]L1Znx|Mp%tBEP~BlCEJH)lt(F4xydzZJas,iji6WwvDDDTiAYBqXtTyV0Sb
w~%:8yF+HSE|9xs*r[Zl1*JQs<k>1qW<aTywXR%G|al))2syxfObSoNa!r8cQE*F1kh|Y4ITD0i?D8GBQAISH+=^1ui?AoqF3^.1W^xn$:34!<qQ<D3j(BJ
qFR)KCYnTqbG_y8FkY,r1!~Ay:tZ~m(PTkjG;T8F<s:hiP2r+F+o[KnmX2o,bNo&<c;=g0ZRzMQ3[1]E*nT)F$uZcED>zoa%o7~<2Ibh7D>bh7JUCJJdAsq
ioaG_xrFmLrerCXf*l6m=+fgw$q6DS?it?)1jxp(8B$ja3z9&km^l$N5FG:|:)%pe.RZMTtQ?sd,nP%kntoavM:u^4i2WmS[ECe&B_AA~GyWC5;Q*%|QT.N
^u^Tu!1nvZAXRn9Pl_VRM1+Nglc_?mDnY*^*;!tWQNx*dtG5pLeO9v.;?CnU$B3I^COAnZ9CXpm0YFZjI|yhvsZE:.=WaXH;((=ORU~SF?a3!f8l]Amp934
L50p[.IK~_c,5ZE3GMtxZqiff!x:S.^lvjb0xA8jo|IU<(c(ijh$fGM=a8t<ZB<=7(ESd90Uwzto4;$Cp*envdi]QHq[aMLw7UDHU)(Llvw<a>9jWiA(H^G
]W8X2cb$8f6^~!6Lv[mh>S?_P&[8mV5^+!Pl!R*igV3aN0*nCep$p.Bw>F>B?~O|q(nsg+Qd:4ot|&F3u$)Tx!>eTRmsrTuVGguG%?B)1c|c;B!iO&[]yVW
|Z&ZRoSh39$3q2t=hQ&EnyIdkZ91C(xYTy8IB&4z[E04Yf!D]R6^cy_9zx+:vbZPbkVOLI!vNNJ&z)oN|(2B*o<ZD*BzOE]nJ)1WH|8]_*cZhJwOP:5T+;X
3%HRpqC5dk*NNdHuN>*L!*7s.^~t11LYne.;KW$v!0H8Q3^Q>q(H>vs3glz7_%m*ip~cQh+pS!w:hEJ1Hk.lW&QzL9jUb+JORNVb7JQ8n~l>gq]7I6*,M*D
=od75xBA9FZkx2V:6Js5S7_Qr*RdbRchQ5:5B_PR3^$tb4p;^SUGAH+By$tH__SFzI;dtF[q~pe0h4z+qLw&xob5b2G4BgD%D%Z9F)HC|:>rLH$btZspCkQ
Qs*J,fwdJYiPKh.]&J~+f4_~gXb.?[kYJY572!N8a5ETlW,[Bn1_P0]$aG^Z8o$k5a7dl2Ca16?CNVGv&gj.OrCk*.0rH$6|yS&I$lA*~S:$t,>SfPa>2ir
Z]2xpVy$]Rmv!4(%Mn7vRW=*mk<39y+8h3|QT&,znU[swiDR$X4tpd_Z&fRU107ynGhglx|v9u9iyjq+3ADogAAC=F>aEzMypXI:]3nl5iO!e;EbvmO&q6m
V[tR[(k4J.0_;0teW73uCgG3T2XN>IK[oYcSA8JIbbUBJEl;Udkf?K4s+.Cc:!5<4S_i5elF00bA<+6Tql<<Sy[Nvkx$poN9|.&Rn%W!cj;zhbYV$3[a+6+
Zn*aMN7y+N368QVpiIr;,<;_.PK<.:wN~ST$LrYP<0BgZ)rFGYEwl$HVGBSFy5,*]f0EHVNMbmU*Z?2Dw]GkF]%p!%z<0pP>s*41ab3P+BUi5X,Z&51ixCR
!V,_7VJ5(V3NV_c!vtB=CiNyyY.xdc7(Qlwu^RgEV>6(CPbO>ocqx?:%xH*aVq7n%TgZ)0Yvh5*H|5OKU,]&d2ek>&,WEZ)(MshBm9F$xp)^mqsvR*J.TaL
eVY!9PO6hllrmK]>ewPnv0egL:pAd2o9*%C;M]kg&AfcNNK.XKq!l5eo;0|ZQT:?%]vH>O]CF^w^RMY~7CtAc!TBsj]2aGoOt.%+D!eYz$QsM(C&~Hv7aG!
:&F]QdQ!;9vE4d*:%I_HytuZ$~YbJ9i~SpfGx8bWLCO0gSm<Yg;ZVIHmHds+7J8W$1KBYG9v|zck9Z~.q$9GiN^GR3h<N]HlDhN&8q!Gb!xxUcr)fagHG(*
lJQP?pyXr|Mfhk(HA(]<Ym=BKEq?<Yx&q_oIetU)?)q^7.vg]^aqC$9fy0Gn*q2LtyLTbOB._pDEc*3&YvZUI$oQEd131ggD<~!I<dDc:g5,CERchBIV^)H
v*[C]E!1kD=tdZ(^FksO0b9S~66C7i%)skQX6[ayDp.i*PE)VzGCTbFRwG!^jb>?eJfnrFtj)hw%%xQD4[ahT9$[53?mm>X;=WpzwN37+^k|lJuCPDaUz!a
awPJ6VO5TRGc6bKH;3VGEijwUPCQ)%[*^*Ibx=gULk:[>)>Ev(klFIr(LJ1z&u__cbiSMV+8f+.*~e8N?uBrq.dXcM^WaYmU?_~I=d^bCzk>^eZ_N9z=:Q%
v%;U6)pw^2TQ!|Cp)DpB0_$3=a!N=7R2*2Af7uyA%_U3E;)<KY6XCtCAaDEJ*NpG$lxs5WT;J4~^kIWr|2[UW;!diE|c[B99c6>HOxQ!P,|xO.~jz=n2KH+
%$Rt>muxD6GcUdoy46Sn|[m=]Ziby_WJ3CEu01G1VsCdm3tH[>5GL2WOy;0x$p|uqU$Vk(8eqvuxA15ODX>P(7=L8eke?meKjdnosBlVu%BUMnGJ.>RNs|R
BlDaxO.VD9YKc&7fpV3|+hN>Miy3TbPn7,e6h4,Zf_8!>q&!U7l)bKald]>gyGxo?*&CE]^uN)cSiTE6.I~Mn;)DQWI,8QvTA8uqPrF<0yU56$fMGg>xZ]M
ruy?lrcEZqqUDGdbNSHi.Ft_<mOVZ[jD~N9aleXLMY<%vhZGKkP.L(r0w!bw3rF$H.EMUc8%Houm1:[wTRhtYXGVmN>1|m!P5r8;q1b3v>h0kvrbf3~29dW
;bfc~S^XN]M:Y>&qjiYWgX(M$B&93y8Sn>A:x?67BFI>yjM!6[f+G9D0P<Mr>MTAf:SDi,fzjKvDCFFRE*DDOhls+Yx]8bHC=ohnoA,wA3Mk%!S^vMbyK);
+d3W*~&]s,EvZ+,(+hgIt69P8k]!gJV>S&>801hm&OVvPL|5>5A]7znpg:p>A6H.*,l0s*yN0B0)BDrnOzM*9[&8u~8XF.2C9W*mfhdw9*Oi(q(RZkvg+?,
qG!;JJe=MlKr<*(Q8R3Ip4(Tq(2o|[23i6PGbffh>^a4Ea(U:CWb|_8+iL>)8tUE>[Y|(myc?45~+,?u<~D]Y+tbZ1[Z^i.PIx[%z|,W0(~%a!*a[>D0+.y
kU([L9_89B:dJ2CPX7ly!3Xbke=~QxV(JWYuq$aLg!6F+w]ci$72YbvSywDk)6pLaOIOEVy)>9AiPBo$I6YTxGL*!K|rBox|!_%YA&9I(LQY&0LA!n:Gx2|
YK+m*Tn:x+$UxIdwZvpA.j0Lfw^3~OI6&lIfGhFI__IF8|Yy:N:k]M+z:*j<9>D>*LpnZlx+i2xP5_0y0e*Q,4nK;G:HR[G$dQ._Xw;cvnc]vA[!>zwJA>,
4=M]8>V&_:$vH_>bRbyk^XbL],0Wzwchkl_~RO,cedcU8%Wm3N,U?V7>GaAqnMI8f1:bC,?Q2)y!9jLEGW)jAgC!o1R([ps&03uw94pBTr|L2V=,|he^Fsj
F]u)b+$X:~,3yh(4q(ktFzO?s7.o0%sZ^:C*BRY&Jy^z;4TqlY6+u;xy!&bz4>^2Zle.rok5kwtSsB*loXhfHLicZ]*uy(:.xwJ2725l~t3Xe~Z;GEvW964
T(INZEd4*g[Y2:<ssX)3TzE[Lv;)I8hLLkNLL^WlK084=[mqMz]qo62jHa)aMO?bfwmFJ>2^Yy|]^iPT<FkK0tJgP:vY~*jpcQv6oD*QPamin6wRxB!8^$q
;npu3XN:ba=ocxi$(0Tf8TK3%NuhcthGJk|<iH<]al)v||7LRc[~1D7mgpRTpiipqpynVN4z?Qt0996uZ~?EuXrPb9T*V~qgcCE4NRnnEsI|qm=u1+slVY|
1Po9z6z],7dX(g~8Y:D5.qmHCqGhL*e>qlI]^w[kh3:4bDg?dI8Y4q6iH[iDg.5a7MN^;KdgPcDiL~5E7]t?OVLF5BV?1S>&<vMXc.+)g|S4Q7[D|9Qk8T,
u_2c!PC])h)krfr^Je^:=pIXM7nR+O:<n_boQ.~3H^2K&x]>)Eb.a$W848=G)HA)n|9;S4fuPrkEsIWTUm6=3xZtcX98g%VMopme%F[i(tAIBE3|<Vt7+n$
^%w=Ax1PID]|p*af=T+F0:fUjx6wwa$D(BQlb2kwq$f%0t6G=2%sDBv;<]6|(9kD>)>EZ?^hT2dvF:4XWbU>z)nnYzd.Z:R=GKG9(xh*iZ%fRMilXNhv+>b
0RZLAf6;*ROo<^CLA*G47z2P>chHElX[48AXKsW(A4g7kGynFwdwB9tm++y1eUqH1tixC3r1]NZNRZGBrvmqyN>YZvmeQl>H$&yA)HxU>Cz7Y|d[]:hVo.r
vt]gIJQ1ZgxEm(K)Cn5znQoQtuLs8qH2vTV5&M[0oRG(b,gu8Cm*D,,W$[qkNvk^7B^:4O!+wT]scDzViux2$e!yCX+jmbM;xloajQR=[^j<JZD$6qh|L|b
t(F!6;xMO6yhqAoc*!.WH;7iUvYuovmgZ;2wDUE4DP8?5.y$;GWjppW(d%Ge,0R>1A:Kj4h]Py=T_4*5*%5y&+Dy,0ra;&TeTk;EIl1iZmMq9yeBs_+vjyo
>?ZhW0]<]K46RQGtl0uHCaR%M2y9o.~2~gM7*M_[D_iaf[khbl__RPMlnBGkqkLlynD196bN;wk>3clLJS1E4Of0;X0NyvHC9rNM[IA:)Fds%XXK5;[+<b$
LC5~IvAAAnuIRu,W?3z?:3ec8e0IHp6Z2)Y>~k54)r!&G<!soV|u80Z^Az]&sH6V0%eqa]68):uA6*|a+F8ZYV>7JCdRA]c_a:Zf:(I<9.i=+ku:w>S<CPb
Vmn)4%Q]t+VGNiW[lXu(gX[WDGOcK$)&tr9Ke.dMWlr**h(Kr;hLfUFq288~I0QApr9cSN:>Drc=+_4GJ6o6~;Olq7zHHX>Ew.Mo8*bu*NRMuY:%I9Huc0+
[733]]?7GLlWZk_+7YkS1^dGqJdNvZy0,%];H,J[LuEFZP!3V9O(]<,y1$dB%;N88dP^ACe(t*mE%;7o_|R|j<H~Rv)Pummodwp?Yjb2%<UsSp,Q_[i*Fii
85388(NSbl&[Q!3[e%18?HDjFIwZC]nMI9c(poGO&ObexJAWL)davano<07c$6aoGGkkd_%>b4.8Ji6aOF)w2&Ds%y7LZ&UoO|fIwKZ)m+].Vf&eXHG4foz
&jpwR!iZpa0|v_Dvpjh7F(aDb|q.d;Rx+dH:XSnW54y:R^oqUg]MVT4m5o,D,BD%dxEbWP7,g^;0lZGLql,jrhS|;!9gh1=AyZ^etj_v&>K1o9!08(ONZDz
T%5P3lOw<%zfGnH^:l7qBKZ.M5WQjsT*[]0Gp~EK;2Q5rZ$b+2>gn(aL4G~z*%*q5VZEU03sRk|bPnJ9|m&;>uGG^dCZn)+4<HCd%K9Mh22B%(]g!8MdpTV
3W&>E5O7vn9sOfxD|M%oz9qz+~dZ1(.;.6ISO0W)3Opd;bMg]>WEJF9,+C:W7P<lGG23T$_.pSzp$jKK9H*!OM!4.by!^l+rN)pz2p*kg9O_rg2Wi=3fC^O
7<3A:E6mS20%FLXTfWln]RT^]OMbqSi1*xPX7FB3)l0VsaYTos^Bdq+fO?PxzV1M~En(6d%o.oQ2ED,MnftNf^xm!|=xc,Ic_[f7!11o.OKgI&*Mw+q2vCk
)UCK8a<,vi,SI[R^6.hQj>38z7?j9LxnGl4+R*4NrmK1^M,<*mx;dca$B)]?m:U&.5c]mp+aoN$5:<.H5XUM2mLIq!^0b*Gt=8M[TR*Xl+,)eU~nlxKTcQ.
^]~n?R?V(Ldwk0.tIm.V|+o6C^B~W:SNWOFL,ip&=&gXE7=BsVQ;k|=Ewn+8Z;cu+W|gj4Yqbu$(oz<C|2_;]u3|%XTyJ?k!Zv+1?~5<IaJ441jG4U&NK1+
V+AXQl[%5hEp<0?%PxILV|Zz5qRq)6;jdxtYt![dPuUUnbV[q=L$axj.1%cD1OAqRF;F.3R~Oop)=gNnrXP3yin7_^nsr=Q!fU2?<Wp:J[HcE)I[NPCPprf
wreCV2JW.&!~cd)e]S7g*1x8ut([J4W0FyzveQ(1$W7Wb7vvbb(7l=RRBDwAa>sWy;honsyY=y;>vwGnz1[:0z97yzX1MuxrtXPySW>U)HSjwXlgry2)!Ir
0*Sh*V^t!FnV:Z%04!RPI2D64s%^N>c01VcgX)Uf91VTdJuK]q1|oH+Q,g^MaZ~sOO:O(_N>ltUv$V.KEke.ZI9Q0!+N;)SpHP.&vLvGKbYv%glnz$~D+c2
Ih;_=rBQAByXA1ZC9pA:gr_8))RN^T^A9n&IRa=r>Q.1kTz%~[A[!o;B5Un=jHAaC=Y:)Q?VyS,cUrJqHO;(vMdxx[..m52TDi^B,uG&j6!Ps*<v0G>9$B~
!,B_CB(CtW>jOdQyn!P0z$ESeMxj~kc!z%ZSHJ=!g$i&dotY>O4pSI+iD(U$&m,Tq=M!A=5P!ip3)mXR9E+LpVpF++wkyz4[Vr~74JZ|zBONEDcM1P~[OH6
TiY1NK<$5CXgsFy(GF~UkzZ3fUCxhb>cdIxD)kKr5G.c_[s1fDdOg_N1^g[woqt9FjqyMu(^T:Nfae23HW7F5%$ZJd[Lj4N&91Th6;^7sH7OME~(a~ElvLx
ZtArgKmvGG.Ujx<s$|mqqMH=E(%RuQ.Wg]CN51t3I?;bMhS=O*[QdVt$xsn]35SoL^Y!&US.~aOD57:LHx4N06XM7A6~[AzR>lG+L!4M:il3IlMm]s7|)^X
)mR~DzF6zaijqsu.|2TcrLvG%|nSj3CXKVx,ts(vU]N<10kLM&A,nt7e40)n4E>Wr5iD$~1fz<TB^?,Bx=D(_5vjMK+]S~fg2y%J:Jhg.]=b;K9rAID$El2
1.G46dV5k_]C>t6mr;,w)I:X,qXDDh5!1Z&ROmA49lxgzrE]~l[t>1(dO|yc$zRkHE%:(<]?4;C*N4wJCu|aTITP?vjS![wSoOZv[?d1xcj%PKAWL>(D!Q%
tu+>W+Tf:Fch_1vwBt75nn;pFs(e:2yh6U%V[w$iM6pse$Pw!SP|x10U?SR4=NnnyS;k4eFx71FeYOArNZD?%KKEZkO&0B+TqpzT:(T<*[;~wZ)ocP4zq]x
b^cPnT|UVSkm(+E1$y8x;r.5~PVRoN$Q7K.lHsLV<MQ9qdD_2;fi5)l^)47;DYX$*b[Mn_(D3a6ljK2j$Sn9Ev6:[E^J53fjqW8Xs7g!mfmM=]K(Y|DKc+l
F9bGADn~xWTJptgPe8)>+SdKefuApfb_7Re~ApjMPS^sO8(*~gC,6C+jd5;Sg6h?kP4iI;albBG9S2BeTN&dn4NhfRzY4D:eFe|Q%lDdQ1G[,)Rp._pA1T>
<?1O6ZjI(BA(bh.Cdj>bUzsbKT<Ibqn_?P=JEvbFpi9o:K!z6^5K^yJWH4wsYP=okQnd3P3Vebw^0j6o]BSW9900Qr0PWhmQy3jVdvQ^z8KE5zx&3ta?JS~
;bY;l;&veQ|u?k7CtsuHP.!izjiPFC_TOIzr?p2(~%ZM_$iutCXbT;M7&,cB*a3J3n*OmjlY3IT)IStzjA&!0w4h&6L,ZSY,+ZE,~J0%RC+wFjpE8=Rj.lJ
N<MT:df4;j(POGn6cXJ&EB!mt+mkE!S%RPfB*K2.V9<P;]D9$lC2Ig2+b_Doe~Lr$HkOKq?<q5ia9L.*z9X)bA?HqC)o5V6_vI;WW>Aw0Qbnt6=*=uoGmSE
2.X]x?G2DJmBf2>w.L7nec*,iJ5KkXG!yWiwF$X%.vQ;<fF>SBn%=S+iF|1;Al$UYz(xGoIA~jV.WJ1EytIKl,s:B1HOXn3*Vb.pbxQ^IOHE;7acYA)x*4l
3YR?$5%j,H]yYwO=7f9!adv&etAbf&GJ_fC*|<n><C9glxQUkvfoM?vx;Bk^G&ABK0vIE77,S<2ee?WXm<l:4w,X0<_=v~.jfIe%[XRTDEMoANr(n=E+6*)
O:JGN2v*j0J!o*yADJM]y91z:3:v6LF[?q,W5QbMqZxjyeN,6<%=HjCarMnNb(A<0^9b|iq<85;r4BncDir*<:9<zA)fvpQF.Ogxt[M%FZ.<,|khqZ=YhP4
vhcr+i~:T^_Kbk)trmM_vP+XUQg&>JdF=S^zzdlYN,iV.OB^2uAA[bwC9oO;yLd5_o4;^z4P3hPxe4E%Hc$X;5r22,O).YL$y;]3LaVluq)UtS2YEO!u>q:
$R3q.|gwZVm>d=Jao*o)k,x$S.a8g6%[](D,2B94;P==l%BCuu6Vhet6!t.ir8h=ZalueB$jbQ)qjw|)CJPvPv)eFGiPcE9w[TJDOre)jirZt&3Ks862_sm
2;*^%IQY.Xwb6q8=.Cb%yag_~de[A|!D!_$o2v5Uq.g(QwYXBhpadxxpa]K;H,o?:TqMlrvIl:1*TfH^C,0pzaOvj.X+=|GVmL0HSvH?>uGEc?oX_,fJARM
PXDMpx~~F>;],~,b(37h>2j,?e]BuG|(06qd31[$f3pb3J<iG:Q9*BUYhl$|si]9K1+.uKN.34<^n0vTX(J4.&XFlA20[2A0wWI;i=Ypbv?*bKWi%c8_:n5
,<X9$Q5&yOlb(Gr(vQV?g7~4RtUQIZSg4VRl]8H|s4];aibUGyn1p?!7V+PtCt|YhN&v(~BY6Sknlt:r~Bp+fao;F+PU2mFyDRL?ns?vH3eFW<<R;(ldPIJ
MHz%;B%6.BK0X2A+5<cW8f9vXSC3E%8QIeAw9GuGh?[YI|,~pcNu,.:yM[![VT0I)QqndMS=OkggF+MB5?uO)%p!w*WxGit$kUw08Ry9%s!e8Z[6||GCHJV
Cmm2AKu^aZzqLae<9iL=vN?Kl]7&?F$S.]>boy:IjMf1U$j<J9lNKmCr%L_B2Uk7r_fC)DGC>q[%[d$fvTFgGcH3;:=Yo^Lc$_IV9.Q4IAclATx?L0rUvs7
,%+WPKR32)$tL8?x,fw^[e%,,mv.GpCa1CnH3hRG]|<aUoY_poXmGF=[*Pc|u1w>8|D;i~9GILkFa5=o>LF(p,]+T,*_X[FNAN0jC.0M.TLMXbU1tU)d(PZ
jp>n%EoZ_0)aVh,w)L7DZS8Iw&3c88N[=.4b>?YiF&!aT~CTilT%Plq%0U[&a54P~X^Do)kW$]f7h:^(^h.z%S0^7oS61GcoFM406]5[R%R3nqUvez_e.1k
GoNgUT2YtN&l_|8mjO,,~.xYNuq1UA<p|Wi]PJZo?UeivLjLU1gRrINmHOu<e;p7|!Tqxq?I^0R+R1Z3)T:X=s*a0Ztj_g:oO~Nz)E!G&rdvF&?Ojs1hyi!
qEb07_O~O4B;4brpJ&*iq,$COU~z$1hiw7EUr>:5G]aYenLfzL8f%7ic)GLv6+|_(&w7[66)YYMxivUC?E+C]CNZt~En~h=7zr=DSNEbtvUV]D)VF,7uqb:
8S!;$pcG,4p?~(pb|saH&1u8>fH*!,xwdivwNKr.XC!q*R?ozr;F|~m1DgEM=DK,oz9Md$~5*(6u;<lquD9+Aaxf:ZK?G5*br?or$K=p=x%LJBta<5xzm3g
;Z*k)0cQkE.e)1wi>t8_t%Ay:fuiW|4mSNJzLGB>4Gjw5Crz9bAl<~Fz!N~;x,s]G%w5v=dwv!z=:$i3lWO3MCVdr6;eqkgdoXIU1a(.oi~U^L]W(Nv:A)R
LIwS6t26N|yRE,1d+4;55a+otH_wdu_NGa0jv*++BY,bsMqs7yie^dXVcDGq)ZGa*7LouwlSK8SS,kDBIsBmAxYLE.ma4bPiX<afQV=snSE?5!rR17CBd:A
2,6|VWdE2wlM:i%Pu>;A+!?KdV||C+r:?lU<tD+^3pGG0E],>Ak44!YB_MQKj)f1qt)KzGgRS_DXdU]bDX;Ad~P$A81LG|]CD0Uf$Yd4agFUmO5tb?&%=ca
o~!z&|IGnV?HveZV~BHTKp|%(j%sz;XsQJ2x~R74fqAKsJ;AbWdw~n3J($8Fby?D&tUJ.]9mVJ!(mBP*R7e0syPSZB$r2%[,7I~*Ya0%%2(9%ONZ.D88=|p
^*Q6G*]CXdm5:Mh6mdYF%[^BgxOUl5Ec2XNs_Zjv|fPcQAt44In8W+vi?nMwtd.aJs3|1:08M:afrpBRb,<w^lQW3g4RrSIoeysx[0DV(yOvngS!f,A04MD
7r$5jJfB0a+U!ub.097~gPhT%pKdT(LFvm6Vd[+op^i4N7j)3p?EKeaNtfwXSQFp59cvk885%dXcn_Zu!8>vak~yDNLrnk*wq]FZ(Tr_pcX*;aW.iEEUC$M
d46ojS(DDdwtNJy8|RGdu9?hcoTq?&~dVM%(a=rDFH$74yDy!6Ew$B)0R3&PQ*i5Jt6c_I1mBcr(YucJR$1V:VvuU7c=LqYGCYyF_rD^t(R8g~Z]emJjUUs
0CpuJzb3hdcSzcX<3K2q&w*1sRkrlEYxBhLwgnMGTtL.3cGX&UM2:zSR[>yQXDuL%FNh>jS[X9Fu;L3K7LXEOH]G]vM9eqca?hwzL)M)Pf4>>,TB$)6Bd=t
?%ieG..Fd1;UN])(F5nk^eF?=ZCuHHB59>;XW|6o$mCxPWDI>H3+!KJ*[cH4sDHH?lEeNQkBcrLPPk6yD_DVQ34GdQg|.Te>k_L|t+T:aXIa<mZ>)t*<[:_
oBfR%*w8p]jkwfPkW6|8S.q$H1p>d&KL4Vu]xAcK0<pXQPF*bvoH?(Udgs,SwALrm8)%?bvhTD=nenyQPNQE3Hm18a3r4SG**S5O]mrNgX.|*qqSgi<Zuq^
Zwlcx=7=V$RLSxAKnDq~XLF[wz=ZxGqvmRwbedw]n$^WWkim.~=m.muSI8&:r?EPYxwZMMm:,tEnG!Iv5K;[$=x&0m0PAh>i!m|X6]aG.va^)lLzu8hM1IY
l(6A&<^G[G$+TUb*Nila9hxiaAW2K%b$lMbfI8%an3,XZ=7v6S6,AfPP*YX;v!hd61y[t),*K0gj_UCA&:~9A|Wew.~wOwM+)gb5%&e[y$s9C+bN9.+BdZm
*8;>H*8DRE.Lr3oMB,I~,rufO:bQw%=)U;N]0c!M&8reVEMxTP>m>3dMqrzE4puWzQ1m8)M43LClIPB7+NOEIMTC^)i9hFiQVp[%?:0DIaO;A*+<7l*gmM_
pVyxCtLN~GY$=wt+Ay~s0GJmsPcXdkW>f,RfO3Rm?.0|C>Jsru]2=5p6e!2NQarGm+t$wc0V^^2(.?H&S7rG(6O6mu)mBdtQPH0fP^p))MC3TeT07.~90,d
H8~vK&;.ngopW!s$fyy$?1Hg_[[N.wI_V^2Hw5SHyPIDu)KMDRlJ2,(JlVj5Y0Gnzs%n!RPt>>XL59c:Xiw:1?u9>SW*i;fZQjhYHcN<Df!2j=X0Gr5X(hT
,YHbYNTO!ZFie;+[hg+CNl;x|:CH34&;U3t]lLmb9cNM)azTo=e]Mz;:ItfT:_w^)lc7TbVHhIGL1D4J1KTHmN*T;:jRq3]4xb)3qh;l,6f.mm]z%O3%x()
~=r_AFf<]aWl|02(o%JCR9xT0a$!RUgi6Ov$Au+r0$i~5rT[l]CHfMT:07ufP0jQZWokd[EU^4MH]Y8UGj&t=xG$ze1q>0bCW,fGX^*IyJpojy9r;kqBrxR
ta$S<S|YrP4TXWpwQ5kEwGL3GyJj%(to<[>W[GpNd%Y6*jC60gr7>A8qgmLbS?AeP.Gge5kHC>UNWM!)o?xe&)ETsyA[b)pVaD<ZJ.%AKAW8<ae:+e1otQ[
~vULEQ<(h.%v?(uM,|6<H~!ACP5P1bE:]2Ve(UZ!biMV:UAnHVHLN)S?!]!wc*|TxX$ah:$^M,SP8&Jlv~oK4o05+8KaQu4SJ>1h=1G$>b:te+|dE5kZ7bc
[HhEH%0s|C]Z5PXb]K1pNfQ=zR13PiwP&>DTG?>vDaPmDi,uA33r3[ghW9h8z)uF,gXAu0Ef,=cWOhE0Y!<hkt]nyefa?HE97i5Gdrdkx&N8$Wbhb?k?):=
tN4o;s(H]ez4+OuC3aSvW^VTFLXl&G5.P1eMXPEqMH;gEEhx?sm~[Y5hZ%sx&3lh1O)?NgU?3[;>!2eZMxZ.&W5Qm=dZkNDEb.bH4k<T^(ttNW6Tx0DWw(I
WV$x.wB44*ZOt82+|K)+)n_TYgHou[JjUN7e2.6Oby>R>YUs|K|>9TN,C<ezYLwm[Z3X:l9DeM5*hRx3Z<3L)df).~pbDkJ%a.<.Zg;?n]>%8GXnlLk6JM;
scCrB1pmg3it6if1)mGBr_KU3[WH*aqc^8hB5w^n0jA*h[QgNHEU&jT^W=~AA3RM;S~E?j8oTR1nk50!x2)!.YLdyW)Ce0K,~=RU!fg=e~wx_Gl8(?2b^.5
]=,V9tghfR|_Rm5L8A[3C_(b^a0;uIcmE[luP>[=L8%;n*2fU8d;=x%CV*L4Ry9k7^+rPLtu()gL+Dt&46;NU2(5=nwq?D12JN42u^!F!y4VOwq=yo^?Z^8
+e?7uXN;t.:rsBl;:WzuE~H7dbrg&w|h)hQ+(?a(+6x!25[8tw.)8,02yU0p35:1R_6ozCsGjl;tBILf.S|9TWDD.>8YcnX,4ug&L0^0syIE_m(IyYx$*zJ
7GGH&A.hDpP7O?Scqw(3_kZ1<=ax[3s9:m;:O$?OOgO=ZpH,)papI^SJ!!5ah5E93V$FBAPN8xJ^63m65)aq)[8P)(50!Q4^6?<vpx,U|BsUX;nBV7b1i+T
6>YJ5F9Re)gQBv>[%mXxmxXI&e6QjjrxN_6xb)Ods??mjX]8*VebogM1[*!:S^Lc~T+GXm+F0:XekWURlj6ILQO<OZx7r.Mmp*Hn2*Z8.G+NR4+%R%1+4sp
Fq$sUp[4fK<B=8MZ!>cHoYv9?;k[0.pl[)[lIbff$0ACMN3j.?0bC_ai$(chG5Qm:Nyz|CbskQN66cMBny&SMi1o+<0U=yclsVa,>Tx,(I|F0,r7Y%:Tmr,
E,4OgL.aY]2yIm,!kkhTl6w&Tt7wyqJ$2<VeQYgiBtKai.p.^g539:(v0c>dsMurl1IV3G6$pzf5MD0WFVF&4445WW~P^LwNvaX0lx5mX?*yG+sq!M<QSPb
$)9P4glp+d1$VpLf.G3rwYjeVGOl4^(3P(xj$)z]hy0BDU*GM5E=zaeb:+4?&k<8A!Zfk|juYgbI[ExfxKdvwszf&TbS5B:Yk4bF<rGGGvjFf8wm)DPrvgi
Y)v3pE6nYa0bDaDu)MD:u&8UgrzRvdpP(J))mu|A9UB,Z&eeYsUOrx2v[=$B*k]Lt4Y*eMJ+6dourO+Q^svS*cJ2*S3&LRBu7ibTOFkURF|Vo&5B*&rvnc^
,vi(|YXr|!BW+l+&8L&T=T2(=9XZN:N%6!DuGso,()8f(2iV$11EWrDC7(F%hqqrhY07Ij(GiX<+69|KZ1UDGSB5Tz5]iOsyPHrM!(9j7%,i=DZB5[mGe1i
_4F(5JTm%y8Pmyj?MCbClw2wv7~VVmN2LaYlCo:=CT1cg<9q!TZ$0WPpsBZH$0qt<cJ1oDris]PnX]=]_|x4=8ULuXK;Lg4T0RzYS5lr:gC_9[8%)j]^I[!
q,:><+wRGk2IV&]rdyS+qibOZNz=+^R&Umg|wp[K<MAta2r:I(WS)B4|mH(.zgsD%pYi1oz2Nqyj(sVrWIR]MYAu!%<tA_Y|s(D?JFx<yU>DL6gA(1XVrqh
4(1r4]Fb.SE6B8^_0A8p&uJu%$T7diX<pO*D.G*U7h3F4]gRF!wW3aBYuRPvg3H&vG0eraJrF(5a?Mz7glLtWO|U:mbv__KJij0:=VD8tP]0Zxe(oBvO=hM
Njv;J,qSt$)Ja1elkJAeFk;h!4>ajC*looCc)QFi3Xel!&?w>4eqt5^9YoAJt%^dHvh,zVck?Lz>5xLPm:K^+C8w~mRi]21B=4%Qn~vlMbt>?>CXgE8Lv<w
!];Myxf=C!80Gs8B^aeEGHo)]1+x[VJsSzMsA8%wHU3m<6iciA=3a=iD_nr5sJ$A<K_gbggU);H2<v?Y[h4(w5u%VF+GNy=nSLE)l2HavF7lbhC7[ca(AGm
d;3vN!.Bc$948qsL^bk!Xn3Om9qlEv*UMJsbcaxsCwOj56w>x$XD>>$Clz_&By(,s5qzgEpQqO>>sUqFAXHAMQb.%pAeYPX9VE3ktgKzl40(BzWL|G)lIPY
3vIq2)sD5TsL02Ks~,LM^M[PHo5prgS4K3(bC4l1=5(;lwOG~*qbGd8?7Bh+4%Nv=sFa0J?i?Wn*NGi8Y*O|Q|?e*n)mTuCE|3Mnx7QskFo>,BOJ^[d+YEs
MEbLKhAQiA<9*n7EJzM7&3pZ0bPU9;E(ZYgA9JE&_.ohLt|kbwrnJ!&5e!AdOGx5u|d<G7fgDA^oSBDdp?t?gyWsyVSsN2PYH,sdQT|aqn=gOJgb<%+7H~E
t813xEhbq8k|y[C*D!15dj|G|mwT(EjEO2R6<iv2$|B_.,H(4Og3y8.~m(i,4yZ!+rp(juS0Tw):x)XKy%yot_6UfC1&AQax+MHX1Z=z3e+CA1_KyyDIp~7
jp>am]zO0C6QIl$=$e01e+GG,uD9WS)UVN;*RpLbv7aXFgr^w64AD~P9XW_!gz2.1.%u!U6LQRF4]fa>]^jT+_kxMWV&g[%R3v?=Uy3xC!|mGO=44knsaPY
ly=wXqhqP00jd69zev2AZTy1:HMk5xX4DFzeJ5;67|z$Y|G$4u0VB61Vsucc8~L.eo%XnvccBz&_W!>i2(wD76_LogH=or(:.ad[P=aWWyD=9n47R.aqA<O
iaCn43<~*x,FA=1LYAHu+3p]4qROGwd|:aKS)3^)T]dRHo*[wKiud(3okJfO!dSQ]z^dCYVU&;4E~e%*3(V>>0cEgUeUUTAc|WAaLrPFJitBQcOns0!Fi;9
nvnY.;zSua*n>KHsraMn*]0(fa&n6KhVhk;z$M]f]n_~Wc5Wdn%^E7,zLC*UBz$l!PyoAXCNOv4l7pt&%(2wj._*wNx73llU<],T0jUuY?$:d?g$h?XHJ:N
.>5E]d!hxPU$hOJftY*tWiPrG2E+v&_.ie!.8PPN=o&qR|y|1Z;+zdlRyF9o[n.g9_)V7:w1Bdfx+q8HlPy?6WtyejvyniSAw:i^fDPe%XOgT0DJ^OjgU>V
o[=Dy[:)VSXhmu,20H~S=9LqQ!qv7U_$Sv.&X(Z]VJE,B^*=aMv]Mja)^CJVYzk0J*VD1<Ol$!WG:0kO(bc=Z7Skzp~=1hgc8BjQCnYk<*d=i1Cl(D*~AS<
0*dE&Q;UpFaP^yXn9M>k65f[HKLzNE6):Ka|46jrXHPOx(_jF|QMuR<KW,RuPcj4r64I3],9>4FjR^|159)%y%!c^rzaZsmw6%X3Q&)Et>bSVRYIwkUBg!i
;*gl:;?48<s^Z1Mcf>to6Yb+~tjA]aAMQfdv9I9iJBMXlujCMs7Btv<%AYE_!j=LAGrin5dYjxp_nE!~~&X9F3WS*ZB*ht[I2Y;eWa7!l&Cq=EH6u=<Xq|^
)HD1fKbo[>$LU]TS*jw%bV,n2<e6^DyC<Q.bezO(F+VED&)G,r:s97P4IZE+E6,TMu~X((9GWu&<PZTs4o5?JnVE>,oPeI8,52>3_=3h.LT66Vle9U8>G6W
6a_F$i%zr:W)xCmLEKpkc]D4rK9zvJT>T$|rfM2]h0zYE[yvoUXkPx=!KD4sYnXW065pFUcAHw>d764i(~>9:Elg^~;$Mjn?)%S+rX0+xOH0RHwN!^m!Q|m
A3(*(cqao6r4qblbBn;4y|&cAwsw15lB&P,_z%z8$9UZ8j5RoQpx1slBng&LYL[U7Fn7FW!SRa1%YH7&6H>XxTC_KJe<,BElq<T4Xw&c]n8!L)f*oBz.(iu
]$PCsm:%PkVrA+XhZMnD(<<xro19Di>|V^6euk^k^.I%a|Tq6:DKz1o&ZoFi~<a!35;7j$3eS_X&The4OYRN4xFovJB3tGre=I<UO[QdM:rA(*3vY%(aJv9
MG88^6a=hmiggV1<4~XRX97~7sq1lSXR+mvliq,w)U367$rTh_b5RlnG]1d_A)7rvN%4,th:*;xU3mAT(b|^IckPWto5cy=uOXYFpV1$EeD81,PYj6WdWvv
ot[<Z^<GLBVy;bnWokhT6Ygix6B~F$m3ddEQ~[Y;B^b8|_jA^0~m9,6)Mfx7V5vJ,EW,8bcAo;R~]TsRR>M>1[%kT[J]W;n1)5^dndZS]>Z7RVT&X3B?HXl
Yq+k3izKjaPZhApt7jt)0<_n;&(R;w:rAf?%=CP.PGfHIBMYfJu$tlN.^uQ:4z[8?H]^C[U^BEOjhG48)]l|VkD>%_,>T36Fm>g~TOaZHYCv|<ab*jnq:jL
y~nT9xFMpGOj*7j]hBjkJNyb=omX*rKc1oP:FFdBsnAQSU2aG3*Gmm$H4]_rxpqlrpqU&599MR:r~tV>cjZ7IR!NTQ27Y2nAKVoIJU1wcv>zDM7ZbS4Ws:Z
6bHC13wFV%Q3[.~+(XrW*KNX0jRFTbZ04l&Df+(dKAhCm,<D[N%Y:]B5]eO(vq+AUB,H%3=+Iqm5JcT_F&:Wa9ndPVlA7O*%Qr?Y8VCX[p^b<zS=[fl1*:>
tzEz4p.<o76_)O()gmM*0?GL2+uF=3NPoQdLTO<<~+F,u<w[L|+Q~3+l0&eW1.A9%$_?JB4hvxy:6?3di,d]u;?Xd~[(&zOc9?%:PQQXwd!i750*f.SdsG4
z<Zfp3oNpNgMmH,[NHi8%!j:Nzf^Zh|O!kOEy7r*%Id7%>i<lc3+$O)cZ,Rf3xm%MFOWC0FhA0h;<mC|c_1h|5kM;W0LrI,|Z;;AOIDj0eDM=R>O[K2FQJI
Xy3HF]+v]<y*JSKcuHy74AGwGl!=!MUo*wmg.G]gU9Znj_.y?vz%lvP:vpTmy2Ym3dMVTnxb]qdA14Ziw5f6YHUL;ksgpPOZVI:ATHk9ZXk46=6[1|fc]&0
(fMT(OVgVIJrnY>j;ZzHx3*NiczAm?KJ6r,op?EQ*YB_H70Nn%VvlNI&G$yPaD^y)uQFuF+4A)~^yBl9%<]+pEarsh&_aa)w<q?bIVDKcThe8iz;_0^<r:,
RT+^3dS>?S5U=U_s^bYk|U!Q73JDtLac^7~5YjRrl_uQ,1Eo,$F2n<%Ww^U=FL&KgXB%tRQj4Pkig63hV;;e&7H%y*X,;Mu7:aAAMhp2g|NnHjyaSeT>%HL
s;4hQ]BgK2~FTxlV+N.sM7|g<JOG5i;%~eg[D4HL1sc6Lfa9M_O==DmL_i8rOnukwzQ45c:wer^Yq=L)j+j+)[acUJ^UaF6v;?SXVig9I0kQ(nh)tWQlo1r
&TB72C8,UyP|Vu,3wFOp]O4I6o;S[Kpkp9tz18B<M_&6n&PxVS7ViCT^u:[oNziPOnKNYJ38:6M]^GyYRI6LxupSw7R6;u0?8Sa%58XNZD_02Yuo.ay5Cbd
Jz]O0E1[g<+aN,Cz51z79aIei(r|~3$JG4yub~r)^N,vgSoj^V+W_iU3yDpTNUz|)nqk[P&F24abWbezrVS*PSIm.~F$f,;6=]Wh+*W+QiIDT+J0Y70UQ.Q
RuDzs<[^8FM[u|o8~O12fyIyTw.K431iZ_E$.B9$de<B5=lvZ!I,Y$9D?29_<g3$?0f3NoZ%h+>^bbgI7I1tmu$C2N8I!v0yYV7]a*JR4UUHZf9OByWwwKY
if3!7VIqhQ(g%B|fB|R!(OtUfR[sh:bLWVxF7Ln4N?WeH]);7gJhD^FLE&*V9>Mu83A3F_RtJ4Gg8B8~6eSmQ=!zugHL*]IPtOdM%xXH.Utre%R+yeTA6~!
w6|7*|>(&5A1.X0;EFjOpskq9<n|OgxajUkAn]zz~;gImJg_1aiyByr(Kf,y(;6)Or67aI?0lCWq?6kekiOu$^1T!KwU)s0IW^4D>S!rMj&*=N$Q)Od_Skw
Y4l>k;]Rwz8[IOl+S2=S&f)f7Z1Jxj=g2U,.fVbJM9[19$]Ew?)|TVo7rf2i:F<IQ)hf_xR(tO>ANKU,szqm$>+>sfTD%.?43fzzZ5Y6iXs]RqS$6s,MNjF
xM%]xEI?A9v5h+qLpl08~f_YT)lMyHW^BGtZ&z9,pzrI;Rs^6n_UuZD,0d%d~5x%TFSx%s+HQK<zn+UHFm)a1|kA:[|.RBcTuE3qha?M0L+YvJ0ypCf~iL&
jOFs2LJX2Llx7y>E798bmJiMHq~c^6dw3lN2lxG%]8?nbER3[P.qEp.wQ0E[Y7B0>>=z<F)c=hQse2UWk[$^,3x.*LW&Ke=Sqg+DAofY>2.45vCK~QAPPgk
CeGhG:I6?rRq?JQ9u:Qu^85v>||hZn8+RcefxCNhKY;WVIZcg^JPu9c)Wpt<;VUa^>4?)9fw)l;G0VSm$JZPVlqYK[?90Fv;LC(a*m*i5muu,SkQ3RI~pVK
ORt1woTxft>h0r[9fsH0Qnp8%K+*z!MF;bOL]8O;[dZcy^?aEa*kZFCWNe&lo,aaTm$H)BLN~SXpMUgL*5i[SX37+TA1%s(_O6OVCsT(>CN;6n7jN2C=&cm
^(kGU,9G,KVhIFh.eG&^GSM:.m^QS|Bt*d=hCaG.0>;GvVrn?TUA~Fj.k$<nody.Hh:Zf,.PHr5],txSEI5<2oMBflzq1N<zaW,52fp~cP&[AdE%>[$pymD
(PAXovw?(tD_y=vGiqt!I+*aq?XMkDaw=&J%Vg>Jk:CrVwpB0SEsh4jTiwx|qBw3dZT$O9Dz.KojU+2==|^_~.hfC6Av$m8yuN,i1YBK!P=0000"

def capitalHex? (cs : List Char) : Option Nat :=
  if cs.all fun c => c.isDigit || ('A' ≤ c && c ≤ 'F') then
    some (cs.foldl (fun n c => 16 * n + if c.isDigit then c.toNat - '0'.toNat else c.toNat - 'A'.toNat + 10) 0)
  else none

def entry (row : List Nat) (before : Nat) : List Char × Nat :=
  let text := row.reverse.map fun c => Condensed.letters.getD (c - 1) ' '
  match text.dropWhile (· ≠ ':') with
  | _ :: name => (name, (capitalHex? (text.takeWhile (· ≠ ':'))).getD 0)
  | [] => (text, before + 1)

def find? (name : List Char) : (letters : Nat) → (code : Nat) → Condensed.Reader → Option Nat
  | 0, _, _ => none
  | letters + 1, code, reader =>
    let row := reader.past.row
    let (c, reader) := reader.next
    if c = 0 then
      let (found, code) := entry row code
      if found = name then some code else find? name letters code reader
    else find? name letters code reader

def inTables (name : List Char) : Option Nat := find? name 590892 0 (Condensed.Reader.start condensed)

/-! ### Names by rule -/

/-- Stems of names that end in the code, with the ranges that have them. -/
def stems : List (String × Nat × Nat) :=
  [("CJK COMPATIBILITY IDEOGRAPH-", 0xf900, 0xfa6d), ("CJK COMPATIBILITY IDEOGRAPH-", 0xfa70, 0xfad9),
   ("CJK COMPATIBILITY IDEOGRAPH-", 0x2f800, 0x2fa1d),
   ("KHITAN SMALL SCRIPT CHARACTER-", 0x18b00, 0x18cd5), ("NUSHU CHARACTER-", 0x1b170, 0x1b2fb)]

def ideographs : List (Nat × Nat) :=
  [(0x3400, 0x4dbf), (0x4e00, 0x9fff), (0x20000, 0x2a6df), (0x2a700, 0x2b738), (0x2b740, 0x2b81d),
   (0x2b820, 0x2cea1), (0x2ceb0, 0x2ebe0), (0x30000, 0x3134a)]

def after? (start : String) (name : List Char) : Option (List Char) :=
  if start.toList.isPrefixOf name then some (name.drop start.length) else none

def byStem (name : List Char) : Option Nat :=
  stems.findSome? fun (stem, first, last) => do
    let rest ← after? stem name
    let code ← capitalHex? rest
    if rest.length = (if code < 0x10000 then 4 else 5) ∧ first ≤ code ∧ code ≤ last then some code
    else none

def ideograph? (rest : List Char) : Option Nat := do
  let code ← capitalHex? rest
  if (rest.length = 4 ∨ rest.length = 5) ∧ ideographs.any (fun (a, b) => a ≤ code && code ≤ b) then
    some code
  else none

def initials : List String :=
  ["G", "GG", "N", "D", "DD", "R", "M", "B", "BB", "S", "SS", "", "J", "JJ", "C", "K", "T", "P", "H"]

def vowels : List String :=
  ["A", "AE", "YA", "YAE", "EO", "E", "YEO", "YE", "O", "WA", "WAE", "OE", "YO", "U", "WEO", "WE",
   "WI", "YU", "EU", "YI", "I"]

def finals : List String :=
  ["", "G", "GG", "GS", "N", "NJ", "NH", "D", "L", "LG", "LM", "LB", "LS", "LT", "LP", "LH", "M", "B",
   "BS", "S", "SS", "NG", "J", "C", "K", "T", "P", "H"]

/-- The longest of the sounds that a text starts with: its number, and the rest. -/
def sound? (sounds : List String) (text : List Char) : Option (Nat × List Char) :=
  let fitting := (sounds.zipIdx.filter fun (s, _) => s.toList.isPrefixOf text)
  match fitting.foldl (fun best s => match best with
    | some b => if b.1.length < s.1.length then some s else some b
    | none => some s) none with
  | some (s, n) => some (n, text.drop s.length)
  | none => none

def syllable? (rest : List Char) : Option Nat := do
  let (initial, rest) ← sound? initials rest
  let (vowel, rest) ← sound? vowels rest
  let (final, rest) ← sound? finals rest
  if rest.isEmpty then some (0xac00 + (initial * 21 + vowel) * 28 + final) else none

end CharName

/-- The character of a name. Names may be written in small letters, apart from those by rule. -/
def charNamed? (name : List Char) : Option Char :=
  let code? :=
    match CharName.after? "HANGUL SYLLABLE " name, CharName.after? "CJK UNIFIED IDEOGRAPH-" name with
    | some rest, _ => CharName.syllable? rest
    | _, some rest => CharName.ideograph? rest
    | none, none =>
      let name := name.map Char.toUpper
      (CharName.byStem name).or (CharName.inTables name)
  code?.map Char.ofNat

end Rebind.Text
