/-!
# Character names from U+FB00 to U+131FF

The names of these characters, in the encoding of `CharacterName`.
-/

namespace TextProtocol.Text.CharacterName

/-- The names of the characters from U+FB00 to U+131FF. -/
def fromFB00 : String :=
  "@FB00a!M!O+sFFbIbLbFIbLd+t S TiST@FB13xAR$hIAN!O+sM$CNOWdECHdINIhVEW NOWhM$CXEH@FB1DzHE%EW+VYO(GH
 IRIQv[iJUDEO-SPAN;P$aIKAzHE%EW +sYIDD;PYOD YOD PATAHzHE%EW+VAL&4!w!0AYINqWIDE $<eDALETf+7>A.!
 f(4MEMj:ieTAViAL&4!w!0)E!UvSH%))SH%)!_h%)!_hDAGESH !l)$%)!_h%)!_zHE%EW+V:qPATAHfQAMATSgMAPIQ
 pBE&s,1pGIME)],1rDALE&s,1rH$dMAPIQnVAV!E,1pZAYIN!E,1@FB38rTE&s,1pYO(G,1p(4;t,1v;t,1p&a!H!C,1@FB3E
 rME$~,1@FB40p**!E,1pSAMEK$K,1@FB43s(4P$d,1uP$d,1@FB46oTSADI!E,1rQOF!E,1pRES$K,1qSHIN!E,1qTAV!E,1
 pVAV!EHO&aoBE&sRAFEn;tRAFEnP$dRAFEs_A%6.!%[%6WASLA %rvBEEH (*qPEH (*pBE+o(*rTTE+o(*rE+o(*qTEH (*
 qVEH (*pPE+o(*rD%w(*qN%w(*qT$>H (*mEH (*t+)H!B%rqAH!B%rpUL %rnD!B%rpJEH %roR,=%rpKE+o(*rGAF (*
 oUEH (*qNGOEH (*qO!cGHUNNA %rwRNO!c(*r;!%w%J%r%[+oGO!B(*qDOACHASHMEE (*%[%w!q!;%rk!C*!%J%r<V&&(<
 f!uj:)f!un(l(-f!uf$8%u.&<V&&%;(-f!up!]*6 !u<V&&]o.&<V&&(ae!6TAH .&pWASLA !o@FBD3s!DNG (*oU %rmO~W
 n&J*!%J!*%[!0%rnK^)O~WvE (*nU!GUR KAZAKH K^)&p$Pm%5$l^8%6%roE %rn)c %roU %rmO~WnE %rk$P$lU!GUR K^)
 ^8&p%rk$P%[FARSI %w(*$l^8.?:X<!^8.;<a=o<!<a.;;*=o<!;*.;&m$K.?<!&m$K.;*8:X%L(J*g.?%L(J:,.?:X%L!*;q
 =o%L!*>-:X%L(J<_=o%L(J<[:X%L(JZA$K%L(J;-.?%L(J[1.?%L(J=&=o<!=&.;?L:X<!?L.;;t%6!*s=o=y!*
 r<!;t.;,0=o<!,0.;)T=o<!)T.;:N=o<!:N.;;!.?<!;!.;,-=o<!,-.;TH!B)S<A%6(J,=)S<A%6(J&p)S<A%6!**E&K+)!ED
 AM%=!:!*wKASRAT!:!*wF,y !*tDAM&.!*t^T!*tS<A%6(J^8][.N$l<a][.Nx;*][.Nw;!][.Ny=&.Nx?L.Nx;t%6!)p=y!)
 o%L!)p.Nx,0%L!)p.Nx)T%6!)p^I:N][.Ny&p)S<A%6!)$l,-][.No*!%J!C]?*l<a]?*l;*]?$Py;!.H*8.=.H*g,k.H:,,k
 %L$P;q<$%L$P>-.=*n$Pr.H<_<$.H<[(M*lZA$K.H;-,k.H[1,k.H=&<$.H?L.=.H;t<$=y$Pq.H,0]?*l)T<$.H:N]?*l;!,k
 %L$PrS<A%6*l,-]?$PpAMZA %J!C[Z$l<a[Zy;*[Zx;![Z;q[ZyHE)C[Z$l;t=y%5p%L%5$l,0%L%5$l:N[Z$l,-[Z
 y$:+)!EF,y %5rDAM&.%5r^T%5$l<[&p(J<[.;;-&p(J;-.;[1&p(J[1%w!*;q&p!*;q%w!*?3&p!*?3.;*g&p(J*g.;*8&p(J
 *8.;:,&p(J:,%w!*>-&p!*>-.;<_&p(J<_%w!*?3=o%L!*s,=!*;q,=!*>-,=(J<_,=(J<[.Nx;-.Nx[1.N;q.N
 xHE)C.N$l*g.Nx*8.Ny:,.NySA(G.Nx<_.Nx)+)C(n!)p(M!)o*n!)p%L!)p,=!)yE)C,=!)xA(G,=!)x<_,=!)
 x)+)C<$%L$P;q+o$P?3+o*l<[%L$P;q(n%5q(M%5p*n%5?3(n%5q(M%5p*n%5$l<[%L%5$lZA$K%L%5$l:qF)3AT!:!)k!*
 z%B:h>gy!t!X+sRAHIMAHU <,AHnDI <,AHU ANHa%AUMaAAdNNAuS%V<,AHU =tHI WA-AALIH$l=tHI _mkM _mkAA _m
 n AS-SALAATU WAS-SALAAM$lQUDDISA SIRRAHoS%V<,HU =tHI +;ALIHEE WA-SAL&a$l=tHAA _mrTABAARAKA WA-TAAA
 LAAuRAHIMAHUM <,AHq;**8.H;**g(n!)k$Pr.H;*:,.H;*)T,k.=*n*l*8_f$l*g)T(Do&p!);q*g(n$P;q*8.=&p!);q_f
 q,k>+>-*g(M!)k$P>-)T%L!)?3*g>+?3*8(Dy)T*n!)k$Pr>+$l<_*g=R<_:,>+$l<[_fq%L$Pr.<;-*8^I;-)T>+
 r=R[1)T%L!)p(Do=R=&:,>+$l?L)T(M!)o^I,0*g%L!)p(Do=R,0*8(n$Pm!)$l,0:,>+$l,0_f$l)T*g,k%L$Pr(D
 x*8.=.H)T:,,k%L$P@FD92$l)T*8*n*l;!)T,k.H:N*g%L$Pr=R:N*8>+r=R:N)T(Do=R,-)T>+$l<a:,.<;**8(Do=R;*:,(D
 o=R;*)T(Do=R*8)T(Dy*g=R*8)T&p!);q:,&p!)>-*g(D?3*g.<<_*g.<,0*8(Dy)T.<,-*g(Dx*8(Dy)T.<)T)T.<?L)T.<:N
 *g.<?L)T(M*l,0*g.H;-)T.<;t)T.<:N*8(M*l)T:,.<,0*8.H;t)T^I,0*8^I:N*8(M!)$l*8*g.<*g*8.<)T*8.<=&)T.<<a
 *g.<;t)T.H;-*8%L$P>-)T%L$P;q:,.<:N*8(D@FDCF*E SALAAMUHU =tNAA@FDF0oLA US!HAS KORANIC&A$F(JQALA US
 !HAS KORANIC&A$F(J<,H !*sK!q !*tMO&$MAD !*wSALAM !*tRASOUL !*u=tHE !*uWAS<,M !*wS<, !*o%<HOU =tH
 E WASAL&a$lJ<,JALALOUHOUzRIAL)n!t!X+sBISMI%<H AR-RAHM!:AR-RAHEEM*E*WHAANAHU WA TAAALAAvAZZA WA J%V
 z$aI$6%hLEC(1*V!<b1$Iv<O;;*oPHIC(u&y()vC(9f[Pj;Aq,on>x>>&7<O=0>>BRAKCETz<O&1?]@FE20*u+s_zt!])v_z
 x;i_zr&C*9!P&(r+s=A!up!p%F>1)v=A!up!p%F!uw;i=A!up!p%F!ux&C*9!P;i!uw$V!XTITLO _zz<O$f![LEADERoEM .U
 gN .U.2&Ui>Y%g&Un>gr!n,4(vs!p,4(vt!n;2<O!p;2<O!n$%>>&7<O!p$%>>&7<O!n!]=[<O>y=[<O~,~4>x:-&7<O=0:-&7
 SESAME !_k(B SESAME !_q<O%:)U(vt%t)U&7<8%9&Up*?&9%9&Ut>Y%9&Un!]>Y%9&UtAS+*%g&Up*?&9%g&Ut>Y%g&U
 n!6;;*oPHIC(uMAr()@FE54j[PjC(9f,on;ApM .Uh>gr!n,4(vs!p,4(vt!n;2!6!p;2!6<k+IAM$vS!liS!.ISK
 i)E)n;3-,7m*q!Uo+N+J,O@FE68l;<=dp]B+I$vC!Y,c%IMERCI!BAT@FE70t!t!XF)3AT!:!*wTATWEEL!EF)3AT!:!o!1DAM
 %=!:!*wTAIL FRAG&+nKASRAT!:!*@FE76wF,y ^KDAM&.^K^T^K$:DDA ^KUKUN ^K!D*!!*t:q]R%J%rw*!%J%r%[)c!E*!
 %J%r%[:q*!!u %r%[,-*!%J(*%[%6%rpBEH (*pTEH !eBU,?%rs(*o+o(*q(n(*q(M(*p*n(*qD!B%roTH!B%rp,=%r
 oZA%)%rpSE$C(*pHE$C(*qAD (*pDAD (*pTAH (*pZAH (*pA%)(*pGHA%)(*rFEH (*pQAF (*pKAF (*p=y(*p%L(*
 qNO!c(*q+o(*p)c %ro&p%rx%w(*v_A,0:q]R%J%rw*!%J%rq!u %r$l,0%6%r@FEFFzZERO ?TNO-%EAK.^@FF01
 zFULL?T~~&lf>x*sw=0*sz)F?T<H()v!n~4*oPHIC(uMAr>V>$k!DWOc!6*2=CYAbUbOcTUq-=q%v$YGE$5)>!8
 z)F?T>V!D*2=CK;uS;uT;uN;u~AM;uYAbUbOc^~)ZNi~$)F?T<5>Ug!D~a,&(8*wl~v_Kk&,-&Fk]c~+]G@FFC2fAaEcYAaE
 dEOb@FFCAbYEObcObWAaEdOE@FFD2cYOcUbWEObbIcYU@FF(,EUcYIcI@FFE0zFULL?TC!Y)nP%SD.d)R!Ui&(gBROK$C!q
 kYEN!UiWON!U@FFE8s)F?T!LS %b,eu$t!Rp%m!Rn$Q.9%u!Rp$U&wm.j@FFF9w)!&U$?AN)R$zANCHORgSE$Z%.j!.&!%.
 zOBJECT REPLACE$hT _SzREPLACE$hT _S@10000v&U$?B<7B008 Ae38 Ee28 Ie61 Oe10 Ue01 DAf45 DEf07 DI
 f14 DOf51 DUe7 JAf46 JE@1000Df36 JOf65 JUf77 KAf44 KEf67 KIf70 KOf81 KUe0 &y13 MEf73 MIf15 MO
 f23 MUf06 NAf24 NEf30 NIf52 NOe5 NUf03 PAf72 PEf39 PIf11 POf50 PUf16 QAf78 QEf21 QIf32 QO@10028
 f60 RAf27 REf53 RIf02 ROf26 RUf31 SAf09%hf41)af12 SOf58 SUe9 TAf04 TEf37 TIf05 TOf69 TUf54 WA
 f75 WEf40 WIe2 WO@1003Cf17 ZAf74 ZE@1003Ff20 ZOe5 A2f43 A3f85 AUf71 DWEg90 DWOg48 NWAg29 PU2
 g62 PTEg76 RA2g33 RA3g68 RO2f6 TA2g87 TWEg91 !g@10050p:MB018b9c22c34c47b9c56c6!fc79c82b3b6b9@10080
 l*oM B100 (mf2 W<~h4 DEERg5 $BIDgF !eEgM!hALLIONl6F EWEfM RAMg7F(L-GOATkM HE-GOATk8F SOWfM BOAR
 h9F COWfM BULLi20 WHEATh1 !qLEYi2 OLIVEh3)1ICEh5 CY$vUSv&q=OB127 &QOg8 KANAKOu*oM B130 OILf1 W!3g2
 n&q=OB133 AREPAh5 MERIs*oM B140 B$-ZEi1 GOLDg2b5 WOOLg6c50b1 $HNg2b!fn&q=OB156 TURO2t*oM B157b8
 b9 CLOTHi60b1b2 GAR&+j3 ARM!9i>G7)63 &qTHh4b6 T!xg7.h8)6!sb9c90b1 HELMETk220 =cSTOOLl5 B)3TUB
 k30 SPEARh1 !Rh2b3 S+YDh4b6c40 WHE)*D CHARIOTr1 C$.IOTj2 C$.IOT FRAMEp3 ;0h5b6n&q=OB247 DIPTE
 t*oM B24<I5!i!f DARTg5b6!<eVESSEL B155d20$s.x!i6$G50d305%n1.FAEGE!:+Y$5E>!&Ue!_s$>CK !8%n107+Z%O
 e[~]__~$*%n137wWE$NBASE UNITj~enSE&C_no,a_nn!+TH*WUNITvDRY MEASURE ~ezAEGE!:LIQUID MEASURE ~e
 zAEGE!:?-%h&C_no,a_n~0ATT!X!^+rh)FeDRACHMAlFIVEcFTYd!0%Wh$*lF&h$*m!0]Dm,A]DlFIF&h]Dn!^*<]Dt(~*<]D
 u!^THOUS!T]Du(~THOUS!T]DqST%8Sm$w!h%8SlFIFTY!h%8Sn+L!h%8St(~%W!h%8Su!^$*!h%8Su,A$*!h%8S
 uFIF&h$*!h%8Sw,AMNASoHERAEUM !^+DTH$-u^O!4mHERMION([!4oEPIDAURE!:!go^O!gmCY:FA!X$fDRACHMASvEPIDAUR
 E!:$fDRACHMASx&ZEZEN([FIVEe$wa ,9!L~0HERMION([$woMESSEN([$wn^O$wcH);oROEZEN([FIFTYa ,9!L~0HERMION
 ([FIFTYq^O_:l%1%WwEPIDAURE!:(~%Wx&ZEZEN([(~%WwHESPI!:(~%Wv&TYSTI!:(~%WwNAX([(~%Wt^O!^$*m(~$*
 wDELPH!X(~MNASrSTR!w!:FIF&hMNAS.:!^)F!Ua ,9!L.:?q)jo(l+r)jtYEAR)nTALENT+IDRACHMA,cOBOL)n$fOBOL)j
 n(lOBOL)jq%;OBOL)jo*KOBOL)jpMETRETES!UnKYATHOS BASE+J%~RA.d%SKIA+IXESTES+IARTABE)nOURA+I!$MMA+ITRY
 BLI!cBASE!UsZERO)n!^+r!UqSINUSOID!Un;~&c!UuNOMISMA!U%n190mRO(m%hXTAN)jmUNCIA.dSEMUNCIA+IXTULA,cDIM
 IDIA%hXTULA!UuSILIQUA,cDENARIUS!UnQUINARIUS!UoSES!.TIUS!UpDUPONDIUS!UoAS!UhC!YURIAL!UuASCIA$W%n1A0
 mG!xK&&TAU RHO%n1D0u&xISTOS )zC$FPEDES!5ANjLUM!H$AlTATTOO!H$AnCAPTIVEgHILDfW<~fHELMETgGAUNTLET
 iTIARAf!RfBOWd.fELDgCLUBe(mAC,xgTTOCKhSAWdLIDdBOOMER!Zj&TP!YRY %?EpDOLIUMg%IBeSL!FfCOLUMNgBEEHIVE
 h.fPe$HNdIDEeBULLS ,<jCATdRAMdEAGLEfDOVEeTUNNYfB+q%?E T!xkV!3e)^YRUShROSETTEhLILYeOX B&3hFLUTE
 fGR%8gSTRAINERh!IL AXEj>YB!lj.G=k%n280zLYC([!DAbEbBaHcGbDbIbWbZbTHcJbKbQ(%bMMcNNcUbPbKKcRbSbTaTcAN
 cENcHbX%n2A0p&T([!DAbP2cDbLbUUUdRbLDcA2cQbBbMbObD2cTbSHa2cbC-18eUbNNcXbNbTT2dPbSScIbEbUUUUeKa2cND
 cUUcGa2cSTa2dNGcIIcC-39eTTcUUU2eRRcMBa2b!fdLD2dE2cUUU3%n2E0rOPT!XEPACT $*S !8o%H%O+Z[~]_%W%n3.F(XI
 TAL,[AbBEcKEcDEcEbVEcZEc+7&mdIb(.ELbMbNbSHdOb*f)+dKUcERbScTEcUbEKSdP*1KHEdEFbRSd$>dIIcUUc,bk[9_C$w
 dFIFTY%n32Dn!DYEcNOR;QN TSEmSOU;QN TSEzGOTH!X!DAHSAeBAIRKANhGIBAeDAGSeAIHVUSgQAIRTHRAiIUJAeHAGL
 eTHIUTHgEISdKUS&y)PUSf(mNAfNAUTHSgJERdURUSePAIRTHRAiN!3TYgRAIDAfSAUILfTEIWSfWINJAfFAIHUfIGGWS
 fHWAIRfOTHALf*z%W%n350z(X$vM,[ANcBURdGAIdDOIdEbZHOIeDZHOIfZATAeDZITAfIbKOKEeLEId$hOEfNENOEfVOOI
 ePEEIeREIdSIIdTAIdUbCHERYfSHOOIdCHOOIhYRYcERUe*SEFc)DTSIUe!VdYERaIdATdIEcYUbAcIAu.G(X$vM,[ANcDOI
 dZATAeNENOEfSII%n380zUGARIT,[ALPAeBETAeGAMLAf$_dDELTAfHOcWOcZETAeHOTAeTETdYODd>ASH(2&aDAfMEMdD$T
 eNUNdZUcSAMKAf)[dPUcSADEeQOPAeRA$:fTHANNAgGHA+HTOc)QSSU%n39Fk?M[&v(X$vSIAN$F*2KAbUcGAbUcXAc,sJAbI
 cTAbUcD>oUcT)O)B)x*(NAbUcM>oUc%7VAbIcRAbUc&N,.ZAc$:cSAdHA%n3C8cAU(]ZDAAa-2cHAmX$:AYATHIYAmDAHYAA,_
 a-2lBAGAdUUMISHm?M[&m(E$pcENcW!YYg%W%n4.FDESERET $R&V_1Oh+j_1OiAYcOWcWUcY+qHbP+qB+qTEEdDEEd$>Ee%a
 dKAYdGAYdEFcVEEdETHd&mEeEScZ+qESHdZHEEeER(%aGdOIcEW+E&V_1Oh+j_1OiAYcOWcWUcY+qHbP+qB+qTEEdDEEd$>E
 e%adKAYdGAYdEFcVEEdETHd&mEeEScZ+qESHdZHEEeER(%aGdOIcEWx$:VI!:!DPEEPeTOTdKICKeF+qTH!GfSObUREeCHURCH
 gYEAdH%3eBIBdDEADeGAGdVOWd&mYeZOOd?-hJUDGEfWOEdHA-HAfLOLLeMIMEeIFcEGGd&tcDOdONcWOOLe)-dAHcROAReNUN
 dEATdAGEdICEdUPcOAKcOZEdILdAWEcREdORcAIRdERRdARRAYfEARdIANdYEWsOS(m,:!D$<e)xTAc,uXAc$_dDEELe&YSA
 bHI+HD)OCAYNeGAc*(QAAFeKAAFeLAANeMI(2NUUNe)cd)D%7*.Ub%A,^OO%n4A0j&S%n4B0qAGE $RAaIaNcHcBRAd%zdEH%z
 eaINdHAbYAdIb(.EHKAeKYAd&N%-&rOaINd)BEHPAeS!kTAcEHTAe<gEHTSAfT$:eD)OUb)Z$_dGHAdZ!b%n4D8,wAaIaNcH
 cBRAd%zdEH%zeaINdHAbYAdIb(.EHKAeKYAd&N%-&rOaINd)BEHPAeS!kTAcEHTAe<gEHTSAfT$:eD)OUb)Z$_dGHA
 dZ!b%n500wELBAS!:!DAbBEcCEb*1DEcNDEdDHEdEIbbFEcGEbJEd+7IbJEcKEcLEbLEdMEcNEbAbJEdOb*fQEcREbREdSE~6E
 cYbZEbHEdGHEbAMMAgKHE%n530sCAUCASI!:AL+~([!DALTdBETdGIMdDATdEBcZARLeEYNdZHILeTASd%zdYOWDeZ)OIRBd$:
 d)9dINYAeXEYNeDYANe&TdJHOXeK+nLYITeHEYTeQAYdAORdCHOYcIcYAYeMAQdQARdNOWCeDZYAYf$:KeJAYNeONcTYAYeFAM
 dDZAYeCHATe(0dGHEYSfRATdSEYKeVEYZeTIWReSHOYeIWNdCYAWdAYNeYAYDePIWReKIW%n56FkCIT&WzVITHKUQI!d%eBEcE
 cCEb*1DEbHEdEIbbFEcGA%n57CcHAbHAdIaJEdJEc(.<2dMEcNEbJEdOb*fQAcRE%n58CcSE~6E%n594cYbZE%n597+E%eBEcE
 cCEb*1DEbHEdEIbbFEcGA%n5A3cHAbHAdIaJEdJEc(.<2dMEcNEbJEdOb*fQAcRE%n5B3cSE~6E%n5BBcYbZE%n600
 y&U$?A$FAB<d$G10b1b3b6b7c20b1aFbMc2aFbMc3aMc4b6,2e028BeB029c30b1b4$G40b1b>G50b1b!z$G60b1b5b6b7b9
 c70b!fb6$G8)65b6b7e100-102hB118c20+60BeB122b3c31%ef131CeB164c71c80b8c91e30!&!<%ebCd1)63%ebC
 c>G2>X70b1d400<J1-VASf2<J3-VASf4<J5<J6<J7<J8<J9-VASg10<J1-VASf2<J3-VASf4<J5<J6<J7<J8-VAS
 h50!&.h1)63b5b6c20b1b!z$G3)6>G4)65$G5$Ib7b9c6!z.h<N!i,pb8d60:~b6.h.x:~b6$G34,2c40b:l.h5!&$G6:~%n74
 0d701 Ad2 Bd3 Dd4 Ed5 Fd6 Hd7 Jd8 Kd9 Lc-2 L2e3 L3e4 L4e6 L6h10 Wd1 Xd2 Yd3 (xh4 ABBf5 BBe7 DD
 f26 EYYYh32 JE%n760g80$Ib7%n780s(p*_AAp<A_Bq%F_B[FAEc%sBjB)l%n787lDZ :x(b)(o,JtEZH :xl!E&Re$J:o&R
 u&HEk+>&H(IEwFENG :xmRAMS $HNj%sGjG)ll%sG)ltH %pn%sHjH)4)lo;.J >O$J[FLS :xjZ :xj!E!jTl%s)]!jT
 t)])s(_!T!jTz(p(=LEZH(b)(y%,Y(b!jTsO %pn%sOEjLOS!H(xmQb%,*+&V,<:o)([F*+&Re%(H$Jp%sRjTC =-,J
 tS :x(b)([FTESH :xl!E)(vV!E!p$J%n7B2r%sYp.Q,qy&H.Q,qz+PBILABI!BC*LKoD!Y!BC*LKm!JER!BC*LKnALVEOLA
 R C*LKo~s*L.0)(z(p%Q!IL S!E,J%n800zCYPRIOT<7*.UbJA%n808bO%n80AcK*.UcL*.UcM*.UcN*.UcP*.UcRAb(7U
 cS*.UcT*.UcWAbEbIbO%n837cXAbE%n83CcZA%n83FbOtIM$vI!BARAMA!X~i%n857kSEC&c,c(E$!eENcW!YYg+Lh$*m,A$*
 z&=MY:FE ]6[t>s=p~SAY(2=TfQOPHe:ie=eiFT-$8FLEURONv:wFLEURONw(E$+dIVEe+vxNABATAE!:!D(4A+GlA+G
 f(4BETHkBETHeGIMEL?W(4HEi+7)c[t>s(4YODHkYODHe(4&QHk&QHe(4.!Hm.!Hg(4MEMjMEM~SAY(2=TfQOPHe:ie,~)$IN
 k=e%n8A7+Z$+lCRUCI)m(E!+v(EFIVEe>D%n8E0zHATR!:?efDALETH-:il+7)cdZAYNe;O>s[>AYNd=TfQOPH%n8F4
 e=e%n8FB+Z_C>DzPHOENIC([!DALFdBETdGAMLeDELTe+7WAUdZAIdHETdTETdYODd>A&aDeMEM;hSEMKe)[d*fSADEeQOF
 dROSHeSH(2TAU+Z!4d>Dl]S%n91Fm+Y]yzLYDI!:!D%ebGbDbEbVbIbYbK(%bObRbSScTbUbFbQbSbTTcANcENcLYcNN
 cC%n93Fi.+!8%n980wMEROIT!X_9PH,[*.%7)ZBAa-2e)B%-NAa-2dEa-2eRAa-2e&N$_dH)OSAa-2dEc(.QAcTAa-2dEa-2dO
 cDAj=WVIDJa-2zMEROITIC.5SI!0!D*.%7)Z)x)B%-NAbEc&Y&N$_dHHAdSAcAR%zIC SAkSEc(.QAcTAbEbOcDA%n9BC
 j+$)*V$C=YSp!^)FrLOG=ORMTdIMNm(E%Oe=r%n9D2h+L]__~$*p!^<xu$f<xt(l<xw%;<xu*K<xv*X<xt*b<xw)i<xw*z<x
 zMEROITIC.5SI!0;y=Yl$f=YSl(l=YSo%;=YSm*K=YSn*X=YSl*b=YSo)i=YSo*z=YSn,A=YSzKHAROSHTHI !DA
 i%q)Q(g%nA05jEbO%nA0Cg;Dr%i!]&g!ur+km!DK!kG!b%nA15dC!kJA%nA19c*T+A,6*F(;$:cSAcAcZ%!cKKAdTTT)DA
 eVHA%nA38k%i!q !ojCAUDAf.*%nA3Fo*cg%H$++Z>Dh$*t;y)F%nA50r;]!_d!6%4m%4f^_!qmM!ZALAMiLOTUSf>bLINES%n
 A60zOL$5&>!t([!D+7.!Hg;OMEMdQOPHe)cdSH(2:ieBETHeTAWdSATd&QHe**dKHETHfSAD*1;LFEc$<dYNdDHADHE
 gGIMEL?WGHAYNf>sZAYNeDHALETHhYODHeTHAWcETHm(E!4dFIFTYjER!X;~%.z(X&]!t([!DHEHd&adHAHd$XMe+Xd)cdES-2
 eREHdBEHdTEHdES-1e>ANO,Y$_HeSADdES-3eFEHd$<dINdDADdGEEMeDALdGHA+HTAHdZA(2THALeYEHd&mHeZAH+Z!4
 d+v%nAC0z(mICHAE!:!DA+GfBETHdHETHfGIMELeHIMELgDALETHg+7)ck%iUDh!DZAY(2HAYINgJAY(2HAYINg;O>sYODH
 e&QHeXAPHe$_PHf.!HgDHAMEDHhTHAMEDHhMEM;hSA;LAYINdAY+H*fFEcSADHEfQOPHeXOPHeQHOPHf:ieSHINdSH+HTAW
 k.$$z&k.&%nAEBx(E_C>Ds+i&;eFLEURONh!]![!-%)!_tT !-%)!_ld$f,Hi&9>U%nB.FAVEST!:!DAaAbObAOcNbANcEaE
 d)X*S(FKEcXEbYEcVEdGEbGEc*1CEcJEcTEb*1DEb*1TTEd*fFEcBEb*1NGEbYEcVEdEbYEcNEdMEcHMEdYYEcEcVEcREcLE
 cSEcZEc)+dZ*1SHYEdSHEeHE%nB39j.$&WzTINY _,z!6_,z*R_,z*R!^![%D+c+iz*R$f(aS %D!^&g+iz*R!^&g%D$f(a
 S +izIN)d&c!B$ZTH([~i%nB58+Z$+e>Dh$*zIN)d&c!BPAHLAVI ]6-AYIN-:inZAY+H;O>s=p-QOPHi**dSA;L=T
 eH(2TAW%nB78+Z$+e>Dh$*zPSAL(rPAHLAVI ]6-AYIN-:inZAY+H;O=p-QOPHi**dSA;L=TeH(2TAW%nB99k>~m$;NE$5EC)p
 t%;,H!E)tf!_%nBA9s(E$+e>D%nC.F(X$;K,[+CAi+SAaEk+CIi+SIbEj+COaEj+SOEk+CABj+SABk+CAEBk+SAEBl+CAG
 j+SAGk+CAEGk+SAEGl+CADj+SADk+CAEDdEZj+SEZk+CAYj+SAYk+CAEYk+SAEYl+CAEKk+SAEKl+COEKk+SOEKl+CALj+SAL
 k+CAELdELTcMcANbENk+SAENl+C!Yk+S!Yl+CENCk+SENCl+CENYk+SENYd!Zl+C)4k+SA)4m+CEPcOPcICcECj+SECk+CAQ
 j+SAQk+CIQj+SIQk+COQj+SOQk+CARj+SARk+CAERcSbEScSHk+S&tl+C&%k+S&%l+CATj+SATk+CAETk+SAETl+COT
 cB&t%nC80z(XH%3ARIAN!dA$EEBcAMBdECbNCcCScDc!ldEb(y)LEhEEbFbGaYcHc%+EJbKcAKcUNKdELaYcMbNaY
 d*S_+OE_uOEmOEEdEPbMPcRc+jERiESaZcTbNTcTYcCHdUaUc_+UE_uUEmEVbZaScNT-$:PED!UpUS%nCC0+EA$EEBcAMBdEC
 bNCcCScDc!ldEb(y)LEhEEbFbGaYcHc%+EJbKcAKcUNKdELaYcMbNaYd*S_+OE_uOEmOEEdEPbMPcRc+jERiESaZcTbNTcTY
 cCHdUaUc_+UE_uUEmEVbZaScNT-$:PED!UpUS%nCFAp(E_C$wd_:h$*zHANIFI ROH!F,:!D%eAc)BTAbTAd,uC%!c$_d*(DA
 bDAdRAbRAdZAcS!k<r&N%-&r)ZKINNA WAi%7KINNA YAiNGAcYAdVAj;d*2EbOh!8 SAK+HNA KHONNAo%i$.BAHAYiTA$TA
 e&rSSI%nD30k&S%nE60zRUMI %H%O+Z[~]_%Wt;y)Fe+rh,aDj?qS%nE80yYEZIDI+VELIFeBEcPEb*1&mdSEcCIMcHIMcHIM
 fH)OXAcDALdZALdRAbHAdZAc,uSINcHINdADdDADdTAcZEcEYNdXHEYNf*(VAa ,9!Lr+XdKAFcHAFeGAFd&adMIM;hUMc)c
 dOWcEWcHAYdYOTdET%nEABj.G*!!8k]R!8u;3&W%nEB0q!D,0(<sYO&s(K!o%nF.FOL$5[w!DA+Gf(4A+GlBETHe(4BETH
 kGIMELf+7(4HEi)c[t=p;h(4**~q%QA;LAYINdL&4:hAYINo=Tf,~ SADHE~q!D:i-AYIN-DALETHq=ed(4TAW~q(E$+dIVE
 e+vfH);g+Ls;y)Fr+sAYIN-DALETH%nF30zS[w?ef+7)c[t[>AY(2=Tf:i-AYINj=edFETHeLESHlINDE(0D!Y)$INq.G.*j<y
 o(<j:)o&G!0.&l+yf!uk&V(_!upRESH !uk>9KE !uw(E!4d>Ds;]$f*6S(b,HzS[w+i(h:7p!g(hS!E,Hv)F(h:7%nF70
 z(XUYGHUR ?e-HETHk)cdZAY+H(4HETHk[>=Tf:ie=edLESHl.G(<f!uj:)f!uy;]!qd$f!qSe,Hi%;,H%nFB0zC$HASMI!:!D
 A+Gf!6A+GlBETHeGIMEL?W+7)cd&G=s)ckZAY+H;O[>AY(2*f:ie=e+Z$+e>D%nFE0zELYMA!X~ij_AZAYIN-YODH%o000
 zBRAHMI[:h]^q+8[y?cc%<d(X^(LLLAeRRAdNNNAv*eBHATTI%vLU AAo[yAUmI(]g>b;]!_bUB!N!_k&Ue+-SCENT !q
 mLOTUS%o052r(E%Oe[~h$*t,5%i(X^(*cv!D(XTA*D S:OEbOy%q(XTA*D S:OEbOzBRAHMI+V(X^(%<%o07Fu(E?G
 uKAITHI[:m+8(F*-AUc+[*TAbD)OHAeRHAdNNAd*H,6*F,mj*e(F*-;BgNUKTAk>WENUMER$6!Uq<k+I>~m%c%hC)psANDA;8
 m%q(g%o0CDu<k$F!o%o0D0ySORA SOM(0G %QAHdTAHdBAHdCAHdDAHdGAHdMAHdNGAHeLAHdNAHdVAHdPAHdYAHdRAHdHAH
 dKAHdJAHdNYAHeAHcEEHdIHcUHcOHcEHcMAE%o0F0k&S%o100x%zKMA[:m!D%A)QEbKA%!AeGA%!AeNGAAeC%AHAAeJ%AHAA
 eNYAAeTT%AHAAf+)%!AfNNAAeTA%!AeDA%!AeNAAdPA%!AeB%AHAAeMAAdYYAAdAAdRAAdLAAdWAAdSAAdHAAk%qAb(F*-AU
 cOInO !8gAU !8h*cgMAAYYAA%o136h,5>~m>b,on!DLHAAl*eEIn!DVAA%o150rMAHAJANI !D*2=C*%C!kJ!k*T+A,6&Y&N
 (;S%!cRRAk%iNUKTAk>W>~mLIGATURE)$RI%o180w=2ADA[:m+8[y.S,6%7&Y<2d,mj.-:Yk*-;Bg:3i]^qOMc>b>WSE$Z%.
 i!lHI !8kIGN NUKTAk;d(p!8tEX)_ S:O;d!8wSUTRA !8k%q~lEz=2ADA$F&<C+zz=2ADA ,5EKAMe!>)aDD&$m$A>9KE
 k+3INU$6+J>~>i%o1E1vIN$TA :^%H%O+Z[~h$*>r.FKHOJKI +8)Q*-AUcK!kGAbG%!d*GAbJA>r13d*T%fNNAdT!kDAb+)
 dHAdNAcP!kB%e%!d%-*F(;S%!c%<k*e%+Ub*-,L(QAi*cgNUKTAf$:+)l>b+Y]yo>~m%c%hC)pt>W!> SUKUN>r80rMULTAN
 I !D*2EbK!kGA>r88bHA>r8AdC!kJAbJA>r8Fd*TAbD%!eNNAd*H&rP!kBA>r9Fb)O%-*F(;S%!cRR%!k>~>rB0uKHUDAWAD
 I +8(F*-AUcK!kGAbG%!d*GAbJ%!d*TAbDAeRRAdDDHAeNNAd*H&rP!kB%e%!d%-*F(;$:c%!j%i(QAn*e(F*-,LNUKTA
 f*c>rF0l&S%o300uGR&PHA!U:[(QA !ox:2%o305^l%o30Fj,^AI%o313cOOc.SNA%o32Ac?I%o332c<2%o335d,m%o33B
 r.G$4DU !uvGR&PHA$F[^%o347k,^AI%o34BcOOc;B%o350lOM%o357cAU ;D%o35Do%iPLUTAk!D:c(QAi!](QAuOCAL!XR[U
 %o366*uGR&PHA %^Oe$+dIVEe$i%o370j!DAb(.&rVIcPA%o4.FNEWA +8[yAUc*%NG%fC!kJ!kNY%fTT%fDD+AN!kP!kB!kM
 !k%7RAb)OL!k)Z+lj.-:Yk*-;BgC:2hNUKTAf:3i(4(QAtOMcSIDDHIg>b;;GAP >Uk>W&SjOUBLE(uMAmPLACEHOLD!A!8%o4
 5DqINSER&c!UoS!lHI !8l!D:c(QAv%i]^%o480vTIRHU,?ANJIe+8[y?cj.-:YkEb+jEhAIcOb+jOhAUn!> C:2f(]gNUKTA
 f:3nGV!Zf>WOM%o4D0c&S%o580sSIDDHAM +8[y?cj.-R%o5B8k*-AUn!> C:2f(]gNUKTAfSIDD&$m>bSE>!!_d!qn~7-!i3
 r,QTEXT !8q>~!E!5D:I!TU>T&-Ss+Q+-SC!YSzSIDD&$%hC)p!ERAYS !T+Q+-SC!YSj%c]OSq;k]OSzSIDD&$%hC%l&k!](a
 (bRAYSv!C%c]OSq;k]OSq):RUPLE]OStSEPTUPLE]OSs%4S !TRAYSe$f^ySo%;^ySzSIDDHAM !D.Z-(!,9IxWO-(!,9IaI
 x,9Us%q,9UaU%o6.FMODI +8[y?cc%<k.-:Yk*-,L+kf(]g!SHAC!lRAq>b>W%iHUVA%o650j&S%o660nNGOL([>N!E&-t&e>N
 n!]>N!E)&?a*U>N!E)&?a>N!E!])&?a&e>N!E&-i!])&?a&<>N(b!])&&qGOLIAN SWIRL >N(b&-i!])&?a$;NE$5WIRL >N
 !E!]&-%o680zTAKRI +8(F*-.S,6*F(;$:c%!cRRAk%i+km*e(F*-;BgNUKTAk!D:^$_s.$$6!U%o6C0r&S%o700qAHOM !DK
 !kNGAcAcTAc,9TAmP!k)x%-,u%zdT)O&Y&N,.&[)DAbD!kGAc,9GAmG)OB)OJ)O,9BA%o71Dt;E>8&N&YLIGAT!PRA
 zAHOM %qA$E(F&_WcObAIbMn%iKILLER%o730l&S+Z+vn!>&^[8mEC&chRULAIjY:MVIj!D,sTT%fDD%fNNAd%<%o800
 pDO!$ +8(F*-?ccRRAk.-Rk*-,L+kf(]gNUKTAk.$$6!U%o8A0xWAR!Z C!?!dNGAAeAbWIcYUbAbOcIIcUUc=C!ZdGAcKO
 cENYdYUJdUCcENNdODDdTTEdN%3e(,ATbMcBUcPUcHIYOdOLOcRRd+nSSUUdIIdVIYO,BNGAAeAbWIcYUbAbOcIIcUUc=C!Z
 dGAcKOcENYdYUJdUCcENNdODDdTTEdN%3e(,ATbMcBUcPUcHIYOdOLOcRRd+nSSUUdIIdVIYOr&S+Z>h%o8FFnOMoDIVES AKU
 RU +8(FE%o909bO%o90CbK!kG!k*GA%o915c&[TTA%o918dDD+A,6YAbYAd&Y&N,mc%<dZAj*e(FE%o937bAIcO%o93Bm%i(QA
 iC+zl$TANTAm*cg&IFIX!HNASAL!Ut>8YAj=5RAk>8RAj%iNUKTAk!]DANDAmGAP >Uk,QTEXT !8%o950q&S%o9A0
 wN!lINAGARI +8(F(gaR%o9AAk*-?cc%<dRRAk.-R%o9DAk*-,L+kf(]g:3iSIDD&$m$A>9KEk%q~lE%oA.FZANABAZAR)U!DA
 i%qIbUEbbEbOEbbAIbUc&HIp;Dr!D*%*GAc~U^[,mcKSSAl(4^Z!8u%i*cgC!lRA$4DUa!E&-t!E&-u+kmCLUS!.-=5!DRA
 r(4!D*FVAx=5*M!8r(yS!P*M!8r&k:rGf$:De%c&KDl&V:rGp=5%c-LIN!H*M!8zZANABAZAR)U(yS!P%c-LIN!H*M!8
 zZANABAZAR&w*W?G%oA50zSOYOMBO+VAi%qIbUEbbEbOaEcAIbUc(gbLo;Dr!D+[*T+A,6TS%fDZAd^[,mcKSSAl%i]^
 qCLUS!.-=5!D&Y&N$:cAzSOYOMBO (4;EGbKbNGcDbNbBbMbRbLbSHbb-Ax%i+kmGE&!&Wp+d?Gj&k:rGf$:De%c&KDlPLUTA
 k*M!8!EMO!c>wUN(+*UFLAMEmFLAMEkzSOYOMBO !.&!!B!8>i%oAB0xCANADIAN SY%<BICS NAT$$IK H%+*SAaAdSHRIaI
 c*SAaAoSP(7AwPAU C%)HAU !D)B(.&N%-(,ZAc(;&5)DGAc$_dSAc)x,sT!k&r&xd&Y*(%zd*.U$EIAc(4PbKbTbMbNbLbW
 bNGcYo<D&n+tflS!lHI .Qt<D&n_!rS!lHI .Q ,~s&n+tfa _!rMID-LEVEL )ko.Q $aI&PuMID-LEVEL &n_!u!!-?g&n+t
 fq.Qm!!-?g&n_!w.Q ,~%oC00zBHAIKSUKI +8(F(gaRcL%oC0Aj*-?cj.-RcL%oC38j*-AUn!> C:2f(]g:3n>b+Y]y
 oGAP >U>i%oC50m&S+Z%Oe>hn%WS UNIT !8%oC70z!eCH$C*M!8j!8&KDj!D]l~k)Z^[$:c%!cA%oC92i^;]l~k)ZZ)DA%oCA
 9c*F$:c%!cAs*e)QEbOm%i(QAiC+z%oD00wSARAM $=DI +8(FE%oD08bAIcO%oD0Bb?cc%<dKSSAeJNYAe)_k*e(F(g%oD3A
 jE%oD3CbAIcO%oD3Fb,L+khNUKTAfC!lRAg$TANTAm*cgRE&xeA-KARA%oD50h&S%oD60yGUNJALA $=DI +8%+UaU%oD67
 c,^AI%oD6AcOOcAUc%7(;B!k%-K!kT!k&NG!kD!k&rC!kTT%f%<dJ!kDD%f&5P!k)D&YSAj*e%+UaU%oD90c,^AI%oD93cOO
 c,L+km*cgOM%oDA0c&S%oEE0yMAKAS$?!D<r&5)B)x%-:b&r,s,u&[*F(;,.Ai!ZKAf%q)QEbOmPASSIMB!Zk)~OF[8%oFB0
 wLISU !DYHA%oFC0p^(;y.Z-%W-!l-^&z^(;y!4-%W-!l-$i[eyE!G[ej_5THm!K[eiTH);-SE&CDr%1E!G[eSk_5THSt!^^&
 j$i(ATH>il$wTHf.Ok%1^&Sk$i(ATHSq!^FIFTHf+rh)F>ik%1+rSo!%SCAL!PFACT%XKIIZHzTA*D$FNELdCEVITUgAAZHAAK
 KUjUZHAKKUhMUUVUZHAKKUl,,UNIgP,yKKUiMUK,,UNIjKAACUfPANAMeONd$aAAKANiPAARAMgKUZHIfVELIjWET CULTIV$6
 !UuDRY CULTIV$6!UuL!l)nSALT PAN!Un)_D!?ON!B+-DIT+I<k!Ux&GR!Y,c!TODD,cSP!Y.dTOTAL.d%)POSSES.8!U
 s<bT!PFROM+JIGN MUTHALIYAjVAKAIYARAA%oFFFp;],QTEXT+9A&d%eADdGAN2 )=j)DIGId)P$?(jk)AHeSAGk2bB&d&t2
 eDUN3 (jjGALbN2 )=j)D;Nh&!e)PABfSHESHf=K=KUv(jf2&dBALAGf>LjME %CENk$:3e<KnDbK&dERIN2fS!y>vGISH
 xL&dALcDIM2eGISHe)DKAD3dIc)+d,_kANcEPHe!ea $cS(LnN,FANh%1$cSl%CNAGA [g!:%CNAGAvS!=EDs)+ePIN
 dRAD&d,,mKABeSAL2dHa ZIDA )=jKABA )=j%D)5TUG2 %DTUG2 TUG2 %DTUG2 )^+9)5%D)5%D&ta=_)5%D)5%D&t+9&t2
 bGABgBAaDbG3cHAR2eL,FBALjAGdRaA2eI&dAbG+n;NqU,FBU ABcUNk.[BUmLUG,FBULUGoRa2eDAaGa KISIM5 $q>vMASH
 k!eeBALAGeIcGA*YMASHlIaR2dUDd)DIR*YLUkKAKdLAbU*YMASH2lMdNEc)^ %C)^mSIc<KeU=+GIR2lSHsMbRaA!feIaBbM
 a $cS(Lk2cNa KASK!BU GUNU )zHuSHdU,FDUh(jeSHESHIGiB&d&%2l2cGaUDdHbNa3;U;Ul4cR2eE&d)^j%DE ** %D**
 u2&d>vHA %CDArG+nMIcSALc*1UjDINdGIRdLbN&dGAN2a )=jMEi.[ENl[gENlS!=EDj:FcIN2eSH2dZEN&dA*YLAL&dLALtN
 c:DdDUN3 (j;UoHA;Uh;Ni?6a&wDnU3dLAaL $qLALmIbUcU2bDnGA;Uf2&d>vDA %CHAk)DIGIjB2 $w=KTABqNbSHa=+GAL
 n:DbR %CRAkUR*YRAlDAbIaM $cS(LmUBdEL*YLAjN&d>Ls>LhRcIa4*YAiR2 )E SUmHA %CL=K&%2sL*YLAkI %CLIjUB2
 e;NhSH %CH=K&tuKAKbSKALfID*YLALlU3 %CANl&NME %CENjIc**,F**m)BSALbRcHE*Y$;kIDdUMd<KeUaD*YDUq%DGA2
 kBAa=_GABAqD,FGAD [<xLa ~K+9GALAMdMbNa2a $wUe%DGAN2j.[GAN2qRa3cSHANf&%TIN&d,,qI&dEbUh.[GIm4,FGI4
 i.[GI4oDIMdR2;Ug3&d>vIGIk>LjIGIdL=KIGIlPAlSALcHa=_GISHn$q:Dd<KjENUiUa=_GUm2&dKAK&d;Ns**dS!B%CTUG2
 t(jgD&d>v,,k,,j%DGUD LUGALqLbMa $cS(LlRa7bUNbSHgHAa )=eGUNUfLcI&d&ta2eBADd)zHeGADdKINdNUNdS*1UjU
 aB2&dANc$Td?6gLISHeUDlL2eIa AcBbDIM,FIDIM BURdS!=EDvGaIa DIBdRIc%DIGI)$IR %9)$IR UD %DUD+9;NhL&d>L
 q2cM&d<Kk.[IMl[gIMlS!=EDiINdNbRbSHdKA&dAaD*YKU3kSH2eBADb)PdRcIcERIN2eSH2eGAaLbN2 )=hRa )E&K3 %CAtI
 aR2cSH )E SARi.[GISHrUaR7eIGIcMcKAKcIaDdLIbUcME*YDUcGIcTEjI*Y**UZnNEbUNdPIcRUcSAaRcHAbEbIDcUcIG
 cUHURfT+nUa2bDbMUM $qPAmSHdZIj2a=_KA2oBbD2b!s,FKAD5mK&d;NqL&d:Dj.[KALoM2b4cSKALa [DU %D[DU+9KASK!B
 %DKASK!B[DU %D[DU+9K&%2eI&d:DdUaDjDbNbSALcHbIM5,FKISIM5rU,FHI $q&t2 KU %DHI $q&t2+9KU!fa <zo7bL;U
 gNbRa [g,,oSHU2fWU318gLAaGAB&dA*YDA %CHAkG+nLALjLbNbSH ZIDA )=n:DcIcD+nENcGAaRcUD*YGUDmHAaLcI $q**
 m;NhM*Y)DLUkKIaNcU3bL*YHI %CAs)PABeISHdUaLdME*YENjUSHeNEcSHE )E SUMkIT>vG;P%CERIN2k)=sU2a )E)$U2
 nUMdTAGbK4dE %CA )E S=KNA+9[DU*YAb=KUo=+&tkDbSHjS!=EDjRa $cS(La )E SUMs(j,F)P$?(j(L+9LAHSHUeL&dLAL
 lM&d,,*YRUuIaLbMMU2eSHdU&d:Dk2&dALc:Dd&%2a )=j>LjHI $q:DmIMcKAD2b3*Y&tmIcLA %C&tjGABfME %CENkNEbU
 cSI %C&tjK=+BUmTUG2jENUe.[LU2m[gLU2mS!=EDgHESHIGj3bGAL,FLUGALjPPOS!PLUGALo)+SHIGlHbLbM,FLUM
 a [<+9MA&d<Kk(jf2bHbRbSHa2eEaScIaNcU,FMUiG;UgN+deRGU2eSH&dAb,,dZAi%D)AH&d>vNA+9)AH .[)AHo3&dA*YDI
 jDIi(jkNAa2bGAa ?xi$cS)$U )=o[gNAGAoRdM NUTILLUia2dE&dAbUDi)+SHIGjI&dEi2bM&d>LhR %C>L+9NINDA2&dAN
 bSH*Y&tmGUDdME %C>LrNEbUNdSHE*YA ANdSH*Y&tvU=+&tkSHoSAGeUa11cNa )P$?$qG+nMASHeSAL,F** )P$?$cS SAL
 +9** )P$?$q,_p$wUe%D**i.[**a )P$?%D)PAR+9**UZa AB<j&tGABgBIcDUGdGUDd;NiKAD3e&NNEcSILA3fU2mKISIM
 5 $qBIa UxPAaDbNbPc&%2eI&dAaBcBIbUcEbIaBcUa2i.[PImRIG&dKALdUDcZAi[gPIRIGuRAaBcIbUcSAaG NUTILLUi&dA
 bDUaBd)DKAKcURdLUMdMIcNUNdSALcHIDeTABdU2bBbMbRbSHj%9 SAGi(jgLa [D&t2sNGA2eRcHAa3&d%eADdGISHeNE
 cSHU2e$;dU*YAq6bB6cR2dEa HUc%9)$E ~K*N!L!U)$E %9)$E TAB %DTAB [<*N!L!U(LG9cNbSHa2b&agID&dAbIM
 kM&d%eALcULUGfDINdG+nIGI;UiK,_U2gLULdMUGdSALlNIGdRa $wUe%9)$IR BUR %DBURyTAdU,FIN!VTE$5HUs2bBUR
 fI;UfGa4a %9 SIG4)$U2rK2cLA3eUa %9 SUiDa2cHURdMaASHeRa9eTAa )Ji$qHIcMIi(jfB,FTAB NI %DNI )zH %D)zH
 +9TAB&wDjG&dBIcGUDdSHEbUdTUG2eUDkK4cRcE;UgIa $wUfLbR&d<Kk%DTIRa ~K+9TUaG2cKbMbR,F$; ZA %DZAxUa GUD
 dU Ud%DU PA %DPA [<xSUR %9 SURmU &H%DU [q+9U2bBbDa K,_U2g$q:DdMIc=K=KU;U+9UD (jeSHESHIG&d:DsUG
 dM&d)PABfME %CDAk$:3eUi$4dUM&d?6gPAmN;UgRa=_URl)+SHIGi2&d>v)DNAiLc)D**dU2*YASHdBIs4bIa3cU&dAaSHGAB
 g!qdDUNdGAaLbN2 )=hRcUc)DIGIcMbSHdKIcLUMd&!d)B)+cIG4eTUc=KGUDjDbRUDAmDA&dUmSH&dAbKUaRd<KlXb2bUMX
 fTUKIeZ3&d?6oUdZAa )=eS!=!H$q,,sGbMXdE2cI,FZIi3bBa KABA )=lGbZ2dUa5&dAjBURdMd&Q ELAMITElAB $q**
 k<jAk!e $qKUGoDAG KISIM5 $qU=+MASH+9DAG3d;P)E)$UmUB $cS(LnEZ$C$qGUDdSHEoGA<j!:%CKAK %CArSH2nE22dIG
 dHUSHeKA $qAN)+eSH3eGISHdUDdHI $q&t2nLUMd)BSHULeTUcUR2m[DGInU2(LSHIG $q:Dr$q&%=+LALnSHUnMESH
 d,_3 $qZAoNA4cINa9bDA<jBALdGIoU11 ,KDE$uES+9P&%2 )JnIR2eSAG $q;NsTI2dUM $qMEk U@12400i=fIC$F$f&t
 g(l&tj%;&th*K&ti*X&tg*b&tj)i&tj*z&ti%1)zHk%;)zHi*K)zHj*X)zHh*b)zHk)i)zHk*z)zHj%;Uf*KUg*XUe*bUh)iU
 h*zUg!^>]j$f>]i(l>]l%;>]j*K>]k*X>]i*b>]l)i>]l*z>]k!^G&%Uj$fG&%Ui(lG&%Ul%;G&%Uj*KG&%Uk!g:62iH!x:62
 a <zy!+:62jIVE:62k$i:62iEVEN:62lE!,:62lN!3:62k!4:6Uj!g:6UiH!x:6Ua <zy!+:6UjIVE:6Uk=2<jG!B%C)zHe&!
 y!^BURUi$fBURUh(lBURUa <zx%;BURUi*KBURUj%1?$&%16c21y%;?$LIMMUa4b %e*N)m=fIC!U)aX ?$&t9u*b?$I&!3
 b %e~N)i?$USSUa3y*z?$ILIMMUa!fb A~N$f)5)=l(l)5)=o%;)5)=m*K)5)=n*X)5)=m!^+~2i$f+~2h(l+~2k%;+~2a <z
 v*K+~2a <zwNIGIDA&!d&%j!^ESHE3j$fESHE3j!^,aD )zHo?qS )zHpFIVE)aXTHS )zHq!^,aD ?$Ay?qS ?$A~N!^+<&t
 k,G&toLD ASSYRI!:!4)aXTHf+rxNE ,GGURl%FGURmELAMITE !^,aDj?qSk!KTYeIFTYn%;U <zs*KU <zt*XU <zr*bU <z
 u)iU <zu*zU <z@12470*N)m+i$F(XASSYRI!:?M[&*N)m+i$F$7C(9o&fC(9fTRIC(9i):C(9@12480+9AB $q** )=iSHU2
 mD $q&%2nBAD $q)zH )=r$.<jAB2dNIcZAoU %DBU $qNA2uDA $q<KlG $q,,mIM $qIGIdU U Um<jUDmUG $qAN)+eSH
 a )2%:lDINcUNdERIN2fGAbIaR2 (jhSHeHAbIc;Ni?6fURbSHU2*Y?6sLAK-020fM&d,,mUH %CGISHnMASHdEScIcNIcPI
 c)+cI (jrE<j,,d)^lRIN2 XgSH2=_&%2rZEN(LSHIG $qASHdHIc;NiLAaLdMEaSdSUq$cS SUnGA<jBA$.2gDIM (j
 hUG $q;Ni?6qERENeGAaR %CDIcNElHA %CAjK,_U=+?6s&a&d,,mUHd)AHeNE*YE2cGIkSHIMeZIZ2mBA ,KDE$uES+9G&%T
 %)$qUo;P$qG;P.[GISH+9GU<j;NqD %CG;P$q<KyHA $wU (jlI $q)5%DHI $q&t+9KA $qBUc(.U U UeRl[DZU %DZU
 uK-003c21b5c30c50b1c62c79 %DLAK-079 (ju80b1 %DLAK-081p92d130c42d210b9c20b5b8c38c65b6d343b7b8c8!f
 c90d441b9&dGUcIGId)^ %CLU3d)^ %CLU3vU=+BAt50b7c70c83c90b2b3b5d550d608c17&dASHd:DdDUN3 GUNU (joKU3
 d&NTARcEcU2bDbRUDAo36c48&dDUBdGAcIGI;UiNIc)^ %C)^ %CLU3v)+SH %CKInUDbRUDAp724c49gU2 GUNU $q&t
 o$q)zHe$Td)^*Y)^ %CLU3v<KoMI %CZA7kUSH %D)AH $qGAcKAKyNINDA<jDIM (jiGISHdULdHIcK&%2fLAK-050hMASH
 e)^ %C)^mU*YUhRUDAsSAG GUNU $qHAn$qENcSHE )2%:l<KnHA6 )=hE %9(Li%CHUB2eNAM2eSARkU=+DUG $qNImE<jAN
 uI $q<KnTAK4 )E SAGmUM $q>Lj%1)zHuUR2 ?xi$qUDkU $qDARA3fLAK-668gU3nZA7cU %DZU )E SARr5 $q%1)zH )=
 :KF90zCY%v-&!OAN!U CM00!i>G1=DaBc3b5b7b9c21b!z$G30b!z$G40b1b4b6b7b9c5$I.h6:~b6$G7)6!saB
 c6.h8$s9)6,p!<d10)6!s$G10b2b4d301b2@13000xEGYPTI!:_9PH A00!i;V.v7.h1:~[j;X8b9c2$s3=D$E!z$G40$E1
 b2$E3$E4b5$E6$G5$s6$s70eB00!i;V!<eC001b2[z!z$G10$E!&$G2:~eD<d,2$E9c.x$I;X<I3?S2b!f[j$G4$I$E7b8$E9
 c50[cbIc1b2$E!f[j$G6$Ib7[cfE00!&,2$E9aAd1$I$E7$E8b9c20$E!&,2$E9c3:~$E6,2eF001$E:l$G1)63$E>G2?S:l$G
 3?S:l;X8$E9c4)6;V$E7$E<I50b1[z2b3eG<d$E7.v<I1?S:l$G20$E!&$E7.h3$I$E7$E<I4)63$E4b5$E6$G5:~eH<d$E7b8
 eI00!i;V!<aAd10$E1$E2b!seK<d,2eL001b2$E!z$E7b8eM001.v2b3$E>G10$E1b2[cc;V$E7$E8b9c2=D$E!f[j,2$E9
 c3?S2b3.v>G40$E!i!feN<d$G1$Ib7"

end TextProtocol.Text.CharacterName
