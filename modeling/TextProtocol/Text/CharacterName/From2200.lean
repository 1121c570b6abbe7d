/-!
# Character names from U+2200 to U+2BFF

The names of these characters, in the encoding of `CharacterName`.
-/

namespace TextProtocol.Text.CharacterName

/-- The names of the characters from U+2200 to U+2BFF. -/
def from2200 : String :=
  "@2200a(c%Vh%I+D&+k$ZTI!BDIFFER,ZALu;QE EXISTSg?iEXISTuEMPTY%hTjIN+-&+jNABLAf[Hk(W!:[Hr!6[H
 q&C.cS AS MEMBERs~!MEMBERz!6&C.cS AS MEMBERy,Q%vOFmN-<:?^hCOPRODUCTjSUMM$6p,7!Uf-OR-)E!Us![)E
 hIVIS%0<;o*Z,7j]gK )rr&g)rn?(T )rpS.iROOTlCUBE ROOTj!+$kROOTl%vPOR&c!BTOp_ci!p+Kl+Kf?-D +K
 oSPHER&i+KpDIVIDESgOES (WDIVIDEp=8L TOl(W=8L TOp^ak^nf<Fi!]<Fp*U<Fp+3!9 <FqSUR:P<FqVOLUME <FpC*x<F
 i+3!9 <Fz:f+3!9 <Fz;QE!KEjBECAUSEhR!wOf%vPOR&ck![,7jEXC,bgGEOMETR!X%vPOR&cuHOMO&m!vk)v)ro&H&l
 o&<LAZY SpS$,=FjWREATH ?^o(W&lj&!$y&llASYMPTO!v:;%&x(WASYMPTO!v:;%&z^q%&i>:(WACTU:;%&z]X^qN%XACTU
 :;%&z:5%&p(W:5%&t:5%Y.Iy*U&lmALL %&m;6nGEOMETRIC:;;6zDIFFERENCE ?UsAP%vACHES +,[muGEOMETRIC:;%&
 w^q[C+,?VOFz?V$m%X^q%&zCOL!c(dSm(dS C(9m&g%)%&l%&nCORRESPONDS TOoESTI%=ESiQUI!Z&vTOoST$?(dS
 lDEL,?%&o%Y$2BY DEFIN!?ONw?-D BYlQUES&c!H%&t(W%&mID!Y&iTOm(WID!Y&iTOqST+mT(z;6w*[.Iv*r.Iy*[%D%&
 x*r%D%&z*[>:=?*r>:=?MUCH <wr?Uh(W;6n<wpEITH!A*[N.Iw*rN%X%&z*[%X;6z*r%X;6z]X*[N%X;6z]X*rN%X;6
 z*[%X+Nz*r%X*qz]X*[N%X+Nz]X*rN%X*qz~ESi>e.Iu>S.Iu>e%X;6z>S%X;6z?i&ICEDEhSUCCEEDq+d*ZOFh$v*ZOF
 l(WA*W*ZOFh$v*ZOFr+d;s.It$v;s.Ix]XA*W;sN.Iu$v;sN%X%&z+d*ZOF!E(W%&zS*h*ZOF!E=?MULTISETa ?8oUN%0
 oS.i?VOFi^3OFl?V$m.Iu^3$m.IxCAPcUPk,g)Ee,7f$cSf]P<;nOT )rm&g)rn]gK )rr(dSg.UmS!=!H)Ee,7f$cSf![)r
 u!pT&3k!nT&3j>,j[lhASSER&cjMODELSgTRUEe!KCESg*U*6 !p?uz!]*6 !]!p?uz?i%vVEo(WTRUEi?i!KCEoNEG%*!]
 *6 !]!p?uz>e?nRE++x>S?nRE++x[TP OFs&C.cS AS [TPz[TP $m.IzCON.cS AS [TP %X%&z^3OFl?VOFi+WMAP
 iHERM!?AN.YJUG:h%=RIXz)!CALATElXORdN!ldORd!p+K!EARCo$ooN-<:^ak^nl(HD )rpOT )rmST$?)rnDIVISI!c$cS
 oBOWTIEg!nNORM!BFAC(1_D%vDUCTz!pNORM!BFAC(1_D%vDUCTz%:_D?^x%t_D?^xE!VS!H)v(dSv,4.PORc!lr%c*WSET
 e$vSETi^nmPITCH!KKj%Y!T=8L TOv*q:7s+N:7v+.MUCH <ww*[[C+Nz*r[C*qz[C<wm~ESu?i&ICEDE %X(dqSUCCE!H%X(d
 z)R)U?V$m.Iu^3$m.IzS.i?V$m%X(W%&y^3$m%X=?*[>:(W;6z*r>:(W;6z>e>:(W;6z>S>:(W;6z(W[TP OFw~![TP
 z(W[TP $m%X%&z~![TP %X(dz$7?]rMID&9&1?]z$9!p&f?]z%N!p&f?]z[H!E&V.mw~b!6[H!E~b[H)Gj=M
 x!6[H!E%9&?[H!E._i$f*>!hROKESzCONTAINS!E&V.mw~b!6&CTAINS!E*6 )2,Q.mzCONTAINS!E=Mv!6&CTAINS!E%9&?
 Z )R$zBAG MEMBER.fPzDIAME!.!Un_h!RoHOUSEf$9&jm%N&jo%vJECTIVEjERSPECTIVEl>Y&Uj!nCEIL!Fm!pCEIL!F
 n!nFLOORk!pFLOORl,n!p*yPk!n*yPq*=!p*yPk!n*yPn&H)R+JS.i=noARCdSEG&+fC(1g[;)NOR&Es]s;~%.sVIEWDATA&w
 pPL;$$m)!EST!Uw%,)R!UpWATCHfH!9<+j*=!n;rl!p;rq,n!n;rl!p;rt*=%F<Fr,n%F<FuF.1NfSMILEf$9:$?)$f=.S
 zOP%l,EkERASE $2+,%tsX %)A )NT(i,Du,E<?i<q=[:w=[ERASE $2+,%:rBENZENE (amCYLIND+mITYmALL AR%SD-%vFI
 LEsSYMMETRYiTOT!BRUN)-mDI$h>pORIGINq&C&iTAPERnSLOPEfC%S!.BOREeS,XlAPL ^2AL&&I-BEAMgSQU;P):l?l(d
 fDIVIDEeAMONDhJOTd%4l%4 S.7fJOTkSLASH !qjB&3SLASH !qn):<;f]!j<wr$tVANEo$QVANEp?l$t!Rp$Q!Rv(!]!
 q%N>I._rELTA S.7l?l!% CARETjELTAk%N>IJOTn%mVANEm?l%m!Rs$9>I=MpDEL S.7j?lUP CARETiDELi$9>IJOT
 l%uVANEo?l%u!RsOTE ._oDEL,?._nIAMOND ._qJOT ._m(!._pUP;9E JOTlQUOTE ):k%4&;l?lC(9k$9>I&)rDEL &)
 nST$?&)oJOT &)n(!&)q!%;9E S.7p%:;9E S.7p)v&)p*r&)w;e!qjDEL &ljZILDEfSTI!N&lkEMICOL!c._s?l(W(d
 jQUES&cn!% CARET &lqUP CARET &lo*^eR*;(xf)M ._oE$3L!c._q*^ ._nOMEGA ._o)Mz(W$>CK !8o!p+K!E%u]%$SSH
 OUL&E!H(I,Dt!jL$Wl$7LIN$d>$zINSER&c$Wq+3INU<>)<&U.E)z+3INU<>)<&U.EEM&xSIS$Wp%I?.$Ws(B$($dC!YRE $7
 &Uz!YER$WmAL&4!w!0,E$WwHELM$Wl,g=.!E)RCH:d*4!%vBROKEN(h!ENORTH(f$SUNDO$Wl&qOSTABLE$WrHYS!.ESIS$W
 r)o-C!rUIT-)-PUT H-TYPE$WnL-TYPE.EPASSIVE-PULL-!%-)-PUT$WsUP-)-PUT.E:!T &GR!Y&&)m!gzSOFTWARE-^2$W
 yAPL ^2AL&&):zDECI!I%h>!,E.E&IVI<>PAGEnNEXT PAGEjPRINT S+-EN$WtCLEAR S+-EN$Wt^C$)$Jk?*j$0$J
 z!p(e)u$)$Jk?*j$0$Jz%:)U:*$);rm?*j$0C%BERz%t)U:*$);rm?*j$0;r+a,4:*$)$Jk$gPIECEm$0$JzCUR(z:*?*
 x!p,4:*$)$Jk$gPIECEm$0$Jz+^!B?*s&1&9?*.3!n%X..,4(v[8.3!p%X.l,4(v[8zSUMM$z$1d*Jq$1)U(v
 s*J)U(v,F$1)U&7RAD+T*Jv!n$7BOX &Uw!p$7BOX &Ux*> SC!:&U-1b3b7b9w]K<f*=%tj,n%tq!C%4u::&1!C%4
 z]K:R&1!C%4z]K$7!C$ow::&1!C$oz]K:R&1!C$oz]K<f=Fr::&1!C=Fz]K:R&1!C=Fz]K::*>t:R*>r<f*=%:i,n;&S.i=c
 lRE$;N$WnEJECT$Wm$7&9?*xMETR&i)Vf&V%9 S$HTp+j%D+tp&V%D!g S$HTSu!g S$HTS %D+tj:>DqR&oMEgETRASEME
 j(0TASEMEsEAR$kGR%SDmFUSEe*=*sp,n*ss$1.5(z(vr*J.5(z(vu*=;2,n;2$D)_PEZIUMpBENZENE (a!E%4ySTRA!,N,b
 mF!JN,biAC.5R!Yk)*CTR&i>KxDECIM!BEXPON!Y$Wx$%:w!]$o)0<q!]$o)0UP-$8!]$o)0!%-$8!]$o)0:w!]$o!E$7&?$%
 <q!]$o!E$7&?$%(^,f!E!]$7&?ALARM C$[lS$1WATCHjTIM!AC$[lH!9<+!EF!!:8!l)0($(3,fw(^,fxUP-,fu!%-,fz!]*6
 t$U)U!K&Ap(!(c)NORDxPOWER$WgON-OFF$Wl$WjSLEEP$WsOBSERV!A:E$Wt=W(cNULLe<b<R$A,>TEXTn,QTEXTd(TSMIS.8
 rQUIRYh_$l!jLd&3SPACEj&1<&v&9FEEDj$7<&t)mFEEDjCARRIAGE RE$;Np^0)-dINiDATA LINK ESCAPEpEV<S+3ROL $+
 t<0_$uSYNCH$-<>IDLEq,Q?ZMIS>pB$[zSY:M!K CANCELg,Q%Kn+dSTITUTEkESCAPEgFILE;foGROUP;fp)NOR]yqUNIT;f
 oSPACEfDELETErBLANK$Wm(I,Di=W(cNEW&UhDELETE )m!gp+dSTITUTE )m!g@2440zOCR $Je%zIRf!KKe&<!KK
 n!jT BUCKLEkOW TIEg(TCH +~K ID,ZFIC$6zOCR AM%S^AHECKpDASHeCUSTOM!AACC%ST <kx!]]!@2460u,g]v_i
 v(eSIZ!H]v_iz%H!^()n$f()m(l()p%;()n*K()o*X()m*b()p)i()p*z()u(E,A()n)*V$C()q^V()pHIR]0s!+]0rIF]0
 r$i]0qEV!YE$C()tE!G]0sN!3]0sTW!YY ()x(eSIZ!H.a)?:d?[q$n)?u%^Os<0,g(E)*VENgTWELVE]N(AiTW!YY
 z%c(hD ]vz<0,g%^O%%%b*>q$j*>q%b,eo$j,eo%b?5*>%%$j?5]m?5,e%%$j?5,e%%%b>dD)5*>%%$j>dD)5]m>dD)5,e%%$j
 >dD)5,e%%%b::%tu%N%b*:(Cv=!,P$j::%tu%b::%:t%N?t(Cu=$,P$j::%:t%b:R%ts$9%b*:(Cv=!(qy$j:R%ts%b:R%:
 r$9?t(Cu=$(qx$j:R%:r%b<f%ty$7%b*::W$9=!%N,P%N=!$9,P$7=!,P%N%b*:$9:W$9%b*:%N:W$j<f%ty%b<f%:
 x$7?t:W$9=$%N,P%N=$$9,P$7=$,P%N?t$9:W$9?t%N:W$j<f%:x%b::*>yEFT =!%N,P!p=$%N,P%N%b!T&1:W%N$j!T&1,P
 !p?t%N:W!n%b*:%N:W$j::]m:R*>wEFT =!$9,P!p=$$9,P$9%b!T&1:W$9$j!T&1,P!p?t$9:W!n%b*:$9:W$j:R*>
 x%b<f*>%%!n=!$7,P!p=$$7,P$7%b!T&1:W$9$j!T%N&1,P%N$j!T$9&1,P$7$j!T&1,P!n$9=!%N,P!p$9=$%N,P!n%N=!$9
 ,P!p%N=$$9,P%N%b!T$9&1:W$9%b!T%N&1:W!p?t$7:W!n%b*:$7:W$j<f]m!]D)5*>%%$j!]D)5]m!]D)5,e%%$j!]D)5,e%%
 !]*>k,enWN,i~w::%ttWN,i~x::%:uUP,i~w:R%ttUP,i~x:R%:s,e,i~w<f(V%x,e,i~x<f%:wWN,i!T&1%c%%%N~H::*>%%U
 P,i!T&1%c%%$9~H:R*>y,e,i!T&1%c%%$7~H<f]mARC ::%tf%:n:R>Pq&f;c$2$0%:t,!(V]a)to%:eUPc%tf!%k$j%:eUP
 c%tf!%k%b!n!T$j%tu:R$j!%x$j!n!T%b%tu:R%b!%.3[oq$0;Jm,GB$[r%1<1t[ok~jzF>6B$[k%: S*b<1t?=u(~<1s[o
 k%1<1t[hn+<B$[v=1B$[q(q&KDEl=gmDARK&KDEk$);Jw!p;Jw[I$0>Pl$)%::o.l<T%tu%tl;c<T%:e(V[I$)%t:o$0%::o$0
 (V$U&wm<o(b?X;rSu&C.c!P$U><]5&1;+p$7;+nORTHO$=!B*ySSHATCH ;+]5$),!!p;+y=B.l;+]5&f*ySSHATCH ;+z$U><
 s(B><s$%)NT+Kp$D)NT+Kp$%$7)NT+Ky$D$7)NT+Ky$%=8LO!$Mt$D=8LO!$Mt$%UP-,f+FUP-,f)0UP-_OUP-_N(^,f+F(^,f
 )0(^_O(^_N:w^F+F:w^F)0!%-,f+F!%-,f)0!%-_O!%-_N(3,f+F(3,f)0(3_O(3_N<q^F+F<q^F)0)qn$D)qa.Y.c!P$U!O)q
 z%(HEYEh=nh.jm+Q%4n%4!E$7;+zBULLSEYEhL&3(hm%4!E[Jq$0*dq$)*dk!p[I$UzC%>!EALL >:;:[I$U+a*d(hw!p*d(h
 x=,?(Tg.ju$)%F=,.jz$0%F=,.j.3!n_].3!p_]z.._]z.l_].3)F(hr$0)F(hr$%..$oo!n$ot;:$on!p$o+F]pmS!=$d[J
 q;:&f*d]5..&f*dz(B$($d$7B&oCT!P&U+FUP-,f:7zUP-,f!E[Jz*R%4m(B$($d;:):R&Pt.l):R&Pn!p):R&Pu;c):(TT
 z.j!E;:):R&Pt.l):R&Pn!p):R&Pu;c):(TTz;:$on!p$ou.l$ot$D%K&wt$%%K&wt$D%K><)0%K><z..$ou$U SUN!ERAYS
 tCLOUDf^GiSNOW(mhCOMETf$U&;k(B&;k(qN!FjTH)<STORMmSUNdASCEND!PNODEoDESCEND!PNODEp&CJUNC&clOP?.k$%^i
 p$D^ip<GT ,D(b$>CKfXrS>ch^G!ERA%)DROPSyHOT BE!VAGEm(B_;r$U_;r$:MROCKi&H&eFLOR!B(UT ?(Tz$%!n:Q
 t!p:Q+F!n:Qt$9:Qr!p:Qu%N:QzSK>6!T)tBONESuCAU&c,cRADIOACTIVE!UqBIOHAZ!S!UoCADUCEUSiANKHeORTHODOX*A
 oCHI RHOgRO%T$mLORRA!3iJERUSALEMsST$?!T+-SC!YrFARSI$WmADI&KKTIk&$M!A>wICKLErPEACE$WmY%)Y!ZiTRIGRA
 M (cHEAVENgLAKEeFIREeTH)<h>jd%8fM%S.ci?RrWHEEL $mD$.MAnITE F.1N+pnS*D+ps$U S*D+ps(B SUN!ERAYS
 tFIRST ,G<ZsLAST ,G<ZrMER&GYhFE<^+IEARTHf<^)nJUPITERhSATURNgURANUSgNEPTUNEhPLUTOfARIESfTAURUS
 gGE&!IgCANCERgLEOdVIRGOfLIBRAfSCORPIUShAGITTARIUSlCAP+m%BjA!=IUSiPISCESg.C]]q,%]]kSPADE SUIT
 q$D.o SUITk(H$5UITs$U CLUB SUITp(B SPADE SUITq$%.o SUITk(H$5UITs$DCLUB SUITpHOT)1(aSl,G*am+<*a
 lBEAM!H+<)RESm$iTE!YH )RESw)A!XF!J)nNATURAL,c=2P!UqWEST SYRIAC*ArEAST SYRIAC*ArUNI!VS!B)NYCL!F.E)N
 YCL!F&&(cTYPE-1 ]*2 ]*3 ]*4 ]*5 ]*6 ]*7 PLAS!vSpGENER!XM%8IALSz$%UNI!VS!B)NYCL!F.E)NYC=s)^ER$W
 v$ZTI%VY-)NYC=s)^ER.E$v(m:I)^ER!Uu;0%zIR$WrDIE %j*Vk.j%U%tj$f!_Sz$U(h!E$D![%tp$f$D!_Sz&q=O(cY!ZdIN
 q*QM (c$uAT!AY!ZmLESS!AYINc!Zl$uAT!AYINw$DF)Pk$%F)Pk&$M!A!TPICKpANCHORg*ySSE$5+YDSoSTAFF $mAESCULA
 PIUStCA,xgALEMBIChF!!ERgGEAReSTAFF $mHERMESpATOM$WlFLEUR-DE-LISm?2(B&;t%1&US &C!VG!P%tf;&WARN!F,c
 %_VOLTAGE+J%cD FE<^+I<^+J)!$[!HFEMA!N!T<^!UzMA!N!TFE<^!Up%p!Ue!TMA!N!TFE<^!Uz$7MA!N%p!Uz&1MA!N%p!U
 z($.jm$U(hm!6.jyARRIAGE$WpDIVORCE$WoUNMARRI!H$ZTNER.fP$WzCOFFINgFUNER!BURNlNEU!.gCERESf&=LASgJUNO
 eVESTAfCHIRONg$%MO!cLILITHrSEX.7fMISEX.7lQUINCUNXiSESQUI):RATEnOCC!A.TlBASE.TiS!=!H,El$DDRAUGHT
 S (mdK!Ft$%DRAUGHTS (mdK!FtSNOWM!:!-)- SNOWtUN BEHIND CLOUDqRA(2$U SNOW(mnTH?nCLOUD !TRAIN
 vURN!H(B_;r$U_;y$D(HD IN&wx.[)9ESo)zAB=s&TmOPHIUCHUSjPICKe&T SLID!FlHELME&s$D)tx,g.[)9ESvHAINS
 g.A!YRYi,9!4~>)0!g~>+F!g~>)0!n)9E MERGEv$D!n)9E MERGEvDRIVE S!!!Up$j$D!%-,f+a+>!YRYrS!=E$5>c
 p?g&f%)$D(!%)$U&w)0TRUCKl,C+m%d!n!YRY>ixAST$-OM+T(cURANUSz(C C!r!N>O:)z(0TA!$Mj(^%k!H)!LAC!H(0TA!$
 Mz(3%k!H)!LAC!H(0TA!$Mz&<(0TA!$Ms$U CRO%TON SHIELDvSHINTO)$R!3nCHURCHfASTLEgHIS(1IC SITE
 nGE$?!-=vHUBh %k,xrMAP&&(cL!GTHOUSEy%S.ci^G !cGR%SDsF%S.chLAG %)HOLElERRYfSAILBOATh.i!+ C%BERS
 sKIERfICE S)KEj$vS&B.TqT!Ye]3+~K$Wu$AST!^&uY!S.EFUEL PUMPjC$9>ut$DF)P!E&1$g$U!hRIPEz$U SAFETY]=S
 v$)BLADE]=Su$U]=So$0BLADE]=Su(B]=Si(C CHECK !8w[;LOC$6!UwAPE DRIVEk]2i]Ai,R%(Te%klVIC(1Y %k
 mWRIT!P%km..(0CILs(0CILg;c(0CILs$DNIBj$%NIBj$>CK !8k(C CHECK !8q+WPLIC$zXq$j+WPLIC$zXw<GT X
 i$j<GT Xo?2>au$j>ar]k)tr$j]k)tx!M*Al$:.g$D!M*Az?2!M*Au!IT;S)tnST$?$mDAVIDn%;>t-S+0y<GON-S+0
 z$j%;<GON-S+0z!+ CLUB-S+0)0%;^*x$D%;^*xS$ZK,xhTRE%T?2(B&;:d(B&;s]k$U&;w$U C!YRE (B&;x?2$U&;
 t$j?2$U&;z[Xn$:.g(B&;t$j)Jo]k)JuE!, S+0p.~k[Xz*X.~w)i*O)N$$!3$?$U&;z$j)i*O)N$$!3$?$U&;z^V.~
 z$iTE$C*O)Jy>t-S+0y]k>t-S+0z$j>t-S+0z*XPETALLED $%!T$DFLORETTE)0FLORETTEo$DFLORETTEo)iPETALLED ?2
 $%FLORETTE:d]k)i^*z$j>t-SPOK!HPINWHEEL )JzSNOWFLAKEjT$N!5FOLIATE SNOWFLAKEz(C CHEV$- SNOWFLAKE
 xS$ZKLEh(C S$ZKLEn<GON-S+0x)i>t-SPOK!H%vPELLER )Jz$j)i>t-SPOK!H%vPELLER )JzCRO%T!8k$:.g.jv^=*y%T!8
 z..DROP-$:.g<o.3!pDROP-$:.g<oz$0%t&K.g<o.3%t&K.g<o)0_F)&$D_F&-w+!$z&k&-)0(HD &!$y$DXz$j;A.E%b*6
 s($*6t$j*6mS!F!N%,;e=V)&(C(Y(u&.=V;o!]%,;e=V;o%c(u&.=V;o!!(Y(u&.=V;o%g%c(u&.=V&-zCURVE$5TEM ]q$F;o
 +!$z&k;o(UT +!$z&k;o$%.or&e$j$%(UT ?(TzFLOR!B.om&eFLOR!B(UT ?(Tz($^C)&($!p(e)u)&($^Y^C)&($^Y!p(e)u
 )&($<q(i:*)&($:w(i:*;o<q(i=V;o:w(i=V;o<q(i:*;o:w(i:*)&%b!n:B:*)&%b!p:B:*)&($!n,4:*)&($!p,4:*)&D!FB
 )2<0,g]vzD!FBAT(h$5,(]vzD!FB)2<0%4$5,(]vz$jWIDE$^?A)E)n,7.d]P!UnS+O.9$Q.9,8.bDRAFT!P[i?AR%SD-TIPP
 !H*P%]?A%]*P<8%]?A<8%]*P$%$Q.b.Z-D $1-(q!H$Q&jz.Z-D *J-(q!H$Q&jz$%$Q&jz$j?4%u!T?A?4%m!T*PSQU)2$%*P
 (C.YCAVE-*O$%*P(^$:)y$D*P(3$:)y$D*PB&3-]:*PF$-T-]:?A$0_a?A$)_a*P=]$0_a$Q!RzCUR(z.ek=]$)_a$Q!R:d$j
 $D*P(B-FE=Q!H*P$U-FE=QE$5+O.9$Q.9,8$S$j$U-FE=QE$5+O.9$Q.9,8$S>t-!qB!H?A>t-SHANK!H*PWEDGE-TAI=s?AWE
 DGE-TAI=s*P)o-?2*P%c.5(z.er%1DI$h.8!B+Kx$D$o.Y.c!F!O$D$oz$v(0DICULARn)o*WSETe$vSETn%: S>TBAG DE[mE
 Rz%t S>TBAG DE[mERzOR%U;Ms;<?&&ICED!F*WSETzS*h*Z&ICED!F=dz*6!E.mz:4<D=*z&V]Pn:4?g=*zS!=!H^a
 s$D(H(GC!Y)%!_z!T!C!_m)*$h<R)o!P<]Sz..:-!C!_.3!n:-!C!_+aOU(r*9p!pOU(r*9qF>6OU(r*9p*R[lh>,
 oEFT *:!]?uqT&3o+WMAPmONG !pT&3k!nT&3o[l!E(!!ozLOZENGE DIVI)yBY &1RULE+F&CCAVE-SI)y)q(b$t!vKo$Q!vK
 z(B$($d$t!vKo$Q!vKz:4!n(B)U&7:4!p(B)U&7:4~,!]=[:4>y=[:4>x;2:4=0;2:4!n^Y*sz:4!p^Y*sz%m>d!R
 x%u>d$S:fGAPP!H(!^BGAPP!H(!$S!p$],g)Ez&V$t!Rp$Q.9<-!RmW!SS !].b$Q;,x<-;,tW!SS >My$Q]r&V$t!]]r&V$Q
 !]>MvS_y$SBRAIL!NPAT&4 BLANKf,H-!i12c3b13c23c123d4b14c24c124d34c,*d234d1234e5b15c25c125d35c135d235
 d1235e45c145d245d1245e345d,*5e2345+6345f6b16c26c126d36c136d236d1236e46c146d246d1246e346d,*6
 e2346+6346f56c156d256d1256e356d1356e2356+6356f456d1456e2456+6456f3456e,*56f23456f123456g7b17c27
 c127d37c137d237d1237e47c147d247d1247e347d,*7e2347+6347f57c157d257d1257e357d1357e2357+6357f457d1457
 e2457+6457f3457e,*57f23457f123457g67c167d267d1267e367d1367e2367+6367f467d1467e2467+6467f3467e,*67
 f23467f123467g567d1567e2567+6567f3567e13567f23567f123567g4567e14567f24567f124567g34567f,*567
 g234567g1234567h8b18c28c128d38c138d238d1238e48c148d248d1248e348d,*8e2348+6348f58c158d258d1258e358
 d1358e2358+6358f458d1458e2458+6458f3458e,*58f23458f123458g68c168d268d1268e368d1368e2368+6368f468
 d1468e2468+6468f3468e,*68f23468f123468g568d1568e2568+6568f3568e13568f23568f123568g4568e14568f24568
 f124568g34568f,*568g234568g1234568h78c178d278d1278e378d1378e2378+6378f478d1478e2478+6478f3478e,*78
 f23478f123478g578d1578e2578+6578f3578e13578f23578f123578g4578e14578f24578f124578g34578f,*578
 g234578g1234578h678d1678e2678+6678f3678e13678f23678f123678g4678e14678f24678f124678g34678f,*678
 g234678g1234678h:se1:sf2:sf12:sg3:sf13:sg23:sg123:sh4:sf14:sg24:sg124:sh34:sg,*:sh234:sh1234:s+b[B
 ^6!]$]*k+b!]$]*k+a>y$]*k+b!g$^]r$t!]]r$Q!]]r=L.mz%m$].mz%m*U!Ru%u*U.b$t!]D)5.k!]D)5.D?5.k?5.9WO$^
 ?5.k$]]jTEMz%m:S!qu%u:S!qw$Q$]&R!E*kp!]*k+b[B&R(b^6!R-&Ru$Q!R-&Rv$t;,-&R+b;,-&R,W:S$%)q+b:S$%)q,W
 >M $2$%)q+b>M $2$%)qz,M>w+O$S,8>w<n$S,M$]$Ju&8$]$JzS+O$]$Ju(f$]$Jz,M$&!T,8$S,8$&>w+O$SS+O$&>w<n$SS
 <n$&!T,M$S<D&f.[?g=*z?g&f.[<D=*zS+O!R=_,8$S,8!R*A:8+O$S?g&f.[,8$S<D&f)t:8+O$S,8!R=_,M$S,M!R=_,8$S
 <X$&$8:!T(z(V$&$8$QTHEN.5V!P<]Sh:(Sz$&$8%uTHEN.5V!P^?(^:JARC C*x$S(3:JARC :f$S*=ARC :f$S,nARC :f$S
 *=ARC C*x$],7z*=ARC :f$])Ez$0%t?v!rULAR C*x$S$0%:?v!r&v:f$S:f+>(!^B+>(!.k:+ S:O$t.D:+ S:O*P+j$Q$&
 %J$t.k$]%C!u,W$]%C!u+b$&=hX+a!p$&^f!O%4z%m!g$^$&FROM!O%4+a%R$9!p%R%N=;+a%R%N!p%R$9_<!p%N%R!n_<!n%N
 %R!p=;+a%R$9!p%R$9_<!p%N%R!p=;+a%R%N!p%R%N_<!n%N%R!n=;,W(?$9$2&?=6$9$2&?%m(?=B&?>.=B&?>%%N$2&?=6%N
 $2&?%m(?!n$2&?>.!n$2&?>%$9*~&?=6$9*~&?%m(?!p*~&?>.!p*~&?>%%N*~&?=6%N*~&?%m(?!n*~&?>.!n*~&?>%$9%J>%
 !%z%m(?!n>7%m(?(V=6$9%J=6!%z>.!n>7>.(V>%$9%J=6UP,W(?%N%J=6!%+b(?$9%J>%UP+b(?%N%J>%!%,W(?$9%J&V.U
 s%N!u &V.U+b(?$9%J&V.Us%N!u &V.Uz%m(?!n>7>.(V>.!n>7%m(?(V>y$]?X$Az(dS$F%J*P)v]h%J*P$t$&%J)v)r+b$&
 %J)v)ro?+*[%J$t.D$&=h*qz*r%J*P+d*Z%J*P$t$&^f*WSETzS*h*Z%J$t$S!n%(H &Ro!p%(H &Rp$9%(H &Rm%N%(H &R
 o*U*6 DE[mERzZ )R$6 SPOTeTYPE C(9v>x,4(vy=0,4&7>x*sw=0*sxZ )R$z!n?V(vs!p?V(vt!n$4D!P(v
 u!p$4D!P&7^N)<&?^M)<&?^N!vK %)$1 C%BERz^M!vK %)*J C%BERz^N!vK %)*J C%BERz^M!vK %)$1 C%BER+a(i$x&s
 !_z!p(i$x&s!_+aARC *[&7!pARC *r&7!]!nARC *r&7!]!pARC *[&7!n$%;2!p$%;2+QFENCEm$7]%&Uu?-D (i)o!P;&!p
 (i$aIANT !-&wz?-D !p+K:7z(i)S ;MsCUTE +KlSPHER&i(i)o!P%:eUPz%,+Km&H+Ko+K!E._t&H+K!E)<&?_I(i)o!P[,
 z?-D +K!E(IARM END!P%)$&$8:R%tf%:l::%tf%:n!p!TUPm!n!TUPl!p!T!%o!n!T!%z&HEMPTY%hTsEMPTY%h&s=M
 h!6(!!os!p:+r!n:+zC%>!E=.uD *6m=8Li;<=dp$v(0DICULARp DIVI)yBY =.(+*=%FDIVI)yBY *6zC!r!N)S*hIMPOS!H
 XuD AN!v$[W&o-&e]P!Uz$9$&=h%4x,g$D]pm?(Tg<wo *3(!$2+,%tzC%>!E$f.mS $2+,(VS!=!H<D=*<;v?g=*<;w)J
 i!6%4l!=Eo$f:>$5!=ESrRI+K)Gj._wS %)$on*4^QS )2*Jz!p*4%J!n$o+a*4>7$7&?*6 >7!p$ozBOWTI$d[J)0BOWTIE
 m$cS!E[J+FH!9<+p$%H!9<+p!n_jr!p_js!n!]_jy>y_jzIN%I+DTE _ctTIE %D_crINFINITY NEG%*!C$7&?%c-EN)y+WMA
 PvS!=$d+3OU)%)-&UzIN+-ASES ASmSHUFF!N?^p(dS$F!l.4=8L(b)v!ozID!Y&i$2!l.4=8LzGLEICH&;Km;QMODYNAMIC
 n!%-,f!E[J)0(H(G%N!Rx=nn.j!E%N$S$U(h!E%N$SERROR->0<om$U&wm$D)qn$%)qn.jm$U(hzRULE-DELAYEDlE!VSE?&)r
 ySOLIDUS!E=Mu;<=d!E.mzBIG=dh;<=dt!])El*U)El(3$L(tURV!H=[(^$L(tURV!H=[TINYe&!YeN-ARY(hD ![)rm%C)r
 n$q)rwUNI!c)r:7d)EyS.i^d)rvUNI!c)rz$f.P!T)rm%X)rxN-<:$q)ruMODULO !g SUMoSUMM$6!E<Fx>d+^!B)r
 zFINITE $ZT <Fu+^<=%c$MsA!VAGE )SLASHzC!rU!JI!c^2u:f+^$6z&9+^$6!E)NT!Z&vPATH AR)>POLE
 z&9+^$z!-?v!r&vPATH AR)>POLEz&9+^$z(WINCLUD!P+,POLEz+^!BAR)>A [i)rzQU%8NI!c+^!B)rz+^<==%$J
 z+^<=$c)jk^nf=Mh._wJO(2*R!n*4)rzZ )R$6 S$>MA(u?.lPIP!FfROJEC&cz>?*3(!!os(KACC:I!ox)v!ol.*j)v!u
 l+d+R!gn$%$oz,7!U!E;e!ol.*j?g,Hm<D!_Sz>?%)!n)F(hq!p)F(hzVECT%XOR CRO%T?^x?8!U)Gj)<&?SEMI:!T %vDUC
 &s*J CLOSEDzSMASH ?^n?8$F%)!n)F(hq!p)F(h:d?8!U!E(K).z?8$F%)%c(h:d]P!Uv>?%)$ov,7$F%)$ovULTIPLIC$6$F
 %)$oz)!I%X?^qR!GTH!T)!I%X%vDUCTzZ )R$zRE++!B%I?.zA!IGAM$zOR COPRODUCTz)!SECTI&B!_vUN%0!E,7.d=M
 s)!SECTI&B=Mh.P!lzUN%0!E.PORp%J>Ky^d%JUN%0yUNI!c%J!q %J>Kz^d%J!q %JUN%0zUNI!c>7!T;x!CUN%0
 z^d>7!T;x!C>KzCLOS!HUNI!c^QSr^d^QSz%c)U^nt+>UNI!c^QS >wMASH %vDUCTz.P!T!C(<sOR)Gz!]^ar$f)!SECT!P^a
 zSLOP!P*RORc!lr.P%X%9LAPP!P.P!lz.P!T!C*5 STEMuOR!E*5 STEMt!T!C&1.UyOR!E&1.Ux!T!C!]=Mo._
 i!])<&?!6VE$d._x.POR!E!]=Mh)<&?Z )R$zDOMA%)ANTI,C+m&cwR!ZE ANTI,C+m&cz,O:VzID!Y&i!C(<y*U=.!E!]*k
 w*U*kz)v)r)Gj<D!_SzSI*D$?,7)aMILARv&CGRUEN&s(<y(dS!E)Ju:5%&!E(K).z^q%Y%X%&z(dS$F%J)E!Uz>?%J,O
 z(dS$F%J)v)rz%c COL!c(ds!g.YSECUTI!0,OSz%1&CSECUTI!0,OSz,O!E+c%J!T<yz$BIVALEN&s%;(-z*q!E(!;M
 z+N!E(!;Mz*q!E_F!oz+N!E_F!oz*[OR.4%&z*rOR.4%&z*[]7%U;Mz*r]7%U;Mz*[]7)Gz*r]7)Gz*[]7%U%J(V*r]7%U%J;&
 *[%X_Ty*r%X_Tz*[!l(Y-&9=?*r!l(Y-&9=?*[!T(W_Tz*r!T(W_Tz*[%J%c-&9%Y%J+Nz*r%J%c-&9%Y%J*qz*[_0%X(d
 z*r_0%X(dz*[_0%J+Nz*r_0%J*qz*[%J*r%J%c-&9(dz*r%J*[%J%c-&9(dz*[!o.4%Y%J*r!o.4(dz*r!o.4%Y%J*[!o.4(d
 zS)9%d[C<wm*q%U;MzS)9%d[C+N%U;Mz%c-&9[C<wyS)9%d[C<wzSI*D$?%X<wp%J*[%J,OzSI*D$?%J*r%J,Oz!]NES%d<w
 m*q!E)<&?*r%9LAPP!P*qv>7*qz*q_R.5VEz+N_R.5VEz*q_R.5!0!o.4(dz+N_R.5!0!o.4(dzS!ILER THANmLARG!ATHAN
 lS!ILER TH!:.IyLARG!ATH!:.Ix,O!EBUMPY !oz>e!o(Y-&9,Oz>S!o(Y-&9,Oz>e!o(Y-&9=?>S!o(Y-&9=?>e%J,O
 z>S%J,Oz>e%J=?>S%J=?>e%J?+>S%J?+>e%J(W?+>S%J(W?+!]~ESp+dSE&s!_n$vSE&s!_pBSE&s>?!uzS*hSE&s>?!u
 z+dSE&s?8$F!uzS*hSE&s?8$F!uz+d;s.I)GzS*h;s.I)Gz+d;s%J,O_W,Oz+d;s%J)v)r_W)v)rz+d;s%J:5%&_W?++d;s%J
 (W%&_W(W%&zS.i!n(IBOX )rw!p(IBOX )rzCLOSE$5UBSETe$vSETgB*Z.Iq$v*Z%X%&z+d*Z!o S*hSETt$v*Z!o*WSET
 tB*Z!o*WSETr$v*Z!o S*hSEToBESIDE*WSETg!T;xBY D)5)SUBSETz)*$h<R)o!P:(SzPITCH!K.0TEE $1w?Z!VS!B>K
 y!KK,>NON!KK!Fk+j!nT&3j>,j[ln$v(0DIC&v)Su*6 *U!p?uz!]*6 !n?uz*6 !]!n?uz!]*6 !]!n?uz&VD)5*~!nMEMB!A
 $m!],ez+j>,!E=Mw[l!E._n!o S:O>,z!]>,j[lh>9KE )R!Uw&H%c*j)R!Uz?iDIVID$d&HNEG$6<;z$7LIN$d(!.&
 z>,!E(!!uz=8)].mr)v)rz*U*6 $4<:RE++p!C.mz;k COL!c)roNES%d<wz%c-&U.4*[.Iv*r%X%&z;k?&$4<:RE++
 z*R*U*6 )rz%c?&)rx$D*6sN-<:$D*6xOR$k&8$D.9(f$D.bS+O$D.9(f$D.b<-$D!RsW!SS $%!Rv%m$%!Rt%u$%!R
 v,8$%.9(f$%.bS+O$%.9(f$%.b<-$%.b$9%N$%!Rt$Q$];%:(Sj<]Sz=%;%:(Sj<]S]5*=*do,n*dr;c&f*d]5.l&f*d
 z(H(G[Jq*=*do,n*dz]j!=En$%)H&ws$D)H&ws$%!VY><x$D!VY><x$%^ko$D^kiHEXA$=n$%HEXA$=n&1$%HEXA$=y$%*R%4
 m($)qu$D($)qu$%($=nu$D($=nu$U!O)qh=nt(B!O=nt$%&1EL+eSEy$D&1EL+eSEy$%$7EL+eSEw$D$7EL+eSEw!n$&*3%4
 z%1$t!RSw!n$],g)Ez&V;(S S_y.D[B^6!g$^>Mo?5.D$]]jTEMl&R!E^6[B&R(b^6$&=hXz<X$&$8:!T(z;&(dS$F%J$t$S<h
 )v]h%J$t.D$&%J<h?+$Q$&=h+NmS*hSETz$t>d.k>d$S<h)v]h%J*P$Q$&%J<h?+)v]h%J$t.D$&%J:5%&p<h)v)r+b$&%J<h
 )v)rz%u%]]%$SSHORT.4&]!RtB&3S)9TE$5&>$S$D%K&;r$U&^&;q(B&^&;q$%:w^k+F:w^kz$j*R%4mOV<=OV!B;M
 v%4!E(!;Mta$5>cvS)9%d&]$]$J!H$AzB&3S)9TE$5&>$]$J!H&RzS)9%d&]$]&1&RzB&3S)9TE$5&>$]&1&RzB:I$&$8%uTH
 $C&]EASTz+jB:I$&$8%uTH$C&]EASTz$t%]=7%].k%]$S%u%]$S<-%]$S$9%N%]$S,M%]$S,8%]$SS+O%]$SS<n%].D%]<8=7
 %]<8.k%]<8$S%u%]<8^B%][u$S:f%][u.D^u%m^u$Q^u%u%]:S!q@2B76z,M^u,8%]:S!qzS+O%]:S!qzS<n^u>&!].m
 z%m%]$]!].m+b%]$]!].mz[s!].mz&1TAB ,Es$7TAB ,Eq$t%]$&%D$Q%]=7%]$&$t$m%u%].k%]$&%D$t%]$S%u%]$&$t$m
 %m%].D_8%m_8$Q_8%u_8$t_U=7_U.k_U$S%u_U$S:f%]!pU>T!Ru,nU>T!Rv!nU>T!Rt*=U>T$SRE$;N >PmNEW&9>P
 n!+ C%B!A!RS C!rL!PAN!v$[W&o+b$%!R@2B97w=W(cTYPE A )*CT$-ICSz.Z-D $1-(q!H$t+_.Z-D (^(q!H%m+_.Z-
 D $1-(q!H$Q+_.Z-D (3(q!H%u+_$%$t+_$%%m+_$%$Q+_$%%u+_[s&V;%^?]Z&V;%^?>&&V;%<]Sz?o&V;%<]Sz>&&V;%:(S
 z?o&V;%:(Sz?4%u!T$t!Rp*P?4%m!T$t!Rp*P?4$t!T%m$S?4$Q!T%m$S?4$t!T%u$S?4$Q!T%u$SRIBB!c$&%N>Pk$9>P
 i!nUPh!pUPi!n!%j!p!%x%m$D>M!E&1&?$9:$%)A )NT(i,Dz%9LAPP!P(B$(ESh!T$U$(ESx$U$(ESz<GT ,D!E%bXx,gX
 b.MXo$U)U*?Do(HD *?Dv%,$%^kv&1$%OCTA$=y$%OCTA$=h($UP-,f~c!%-,f~c(3,f~c(^,f C!YREDzNEPTUNE )m!g
 q*=*d(hv,n*d(hy%b%;*O$U CUSPz&e%b%;*O$U CUSP+F%;*OCUSPx&e$D%;*OCUSPzS.i]s;~%.zUNCER.cTY!UqGROUP !8
 kPLU$2)m]Sf!+dIVEp?ZPLUTOk%vSERPINAkAS)_EAhHYGIEAgPHOLUSgN,bUSg$D<Z%hLENAr$%(HD ON*AwTRUE %bMO!cAR
 TAuCUPIDOgHADESfZEUSeK$-OSgAPOLLONgDMETOShVULCANUSiPOSEIDONi!n*d&;u!p*d&;v<b!E[J,W_[%m_[$Q_[%u_[ER
 IS )m$pnSEDNAfRUSSI!:AS&ZLOG+TVIGIN.7jNOVILEgQUIN.7i$4OVILEiSENTA$=iTREDECILEz,O!EINFINITY !u
 zUNITED$WnSE$ZATED$Wq%cD$WoPASSED$Wn&H!p+KuHELLSCHREIB!APAUSE$W"

end TextProtocol.Text.CharacterName
