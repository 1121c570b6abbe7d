/-!
# Character names from U+1700 to U+21FF

The names of these characters, in the encoding of `CharacterName`.
-/

namespace TextProtocol.Text.CharacterName

/-- The names of the characters from U+1700 to U+21FF. -/
def from1700 : String :=
  "@1700aTAGALOG !D*2^!~uUm%i*cgPAMUDPOD@171Fn!D:^RAzHANUNO=(*2^!~uUm%iPAMUDPODvPHILIPP!3,i+i
 s!]+i@1740zBUHID !D*2^!~uU@1760sTAG+~WA !D*2^!YA@176Ec&N)ZSA@1772j%qIbU@1780vKHM!A!DK!bcOb*;NGO
 dC!bcOb*;NYOd(,TTHAeDOcTTHOeNNOdT!bcOb*;NOc)x&xcOb*;MOcYOcROcLOcVOc$:cSOc%!c&NQAjINDE(0D:I;dQAQbA
 c%+UaKbUaVeRYaYdLYaYdQ&_IcOO TYPE $plAUv;dINHER:IAQbAl%i%A%+YaYcUaUbAcOEc%7IEc&_EbIcOOc,LNIKA!y
 hREAHMUKhYUUKALEAPINTUnMUUSI)KOANl!5ISAPh+~TOCgROBATfTOANDAKHIATlKAKABAThAHSDAfSAMYOK SANNYA
 nVIRIAMgCO)4fB,yMASATkKHANe!qIYOOSANkCAMNUC PII KUUHpLEK TOOhBEYYALgPHNAEK MUANlKOOMUUTm&G:FCY&&RI
 ELu%iAVAKRAHASANYAmTTHACAN@17E0n&S@17F0k=WLEK ATTAK SONdMUOYePIIdBEIcU,YPRAMa-MUOYePIIdBEI
 cUON@18.F?a>Nf?]i;;()jC(9f!+ ,HjTODO S>);3qSIBE<7B%SD<:!8ERz?a(mCHU(u&y()qNIRUGUgF!;$aI$6%hLECT%X
 $!z?a%Z;fpF!;$aI$6%hLECT%X!+z?a&S@1820k!D*.UbOEcUEc,^&r!Zd)x)BQAcGAc%-&NS!k:b%zd,u%7&Y)Z*(K!k<gZ%!
 AdZRAdLHAdZHIdCHIdTODO &V%Z!Up(7UbOEcUEc!Zd)x)BQAcGAc%-:b%zd,u<g%7)Z(.GAAdHAAdJIAdNIAdDZAiSIBE EbI
 aYcUEbb!Zd(.G%!c)B$:d:b,u*(GAAdHAAd<gZAcRAAd%zdZHAi(mCHU Ib(.&Y*(ZHAk%z!E$f,H@1880r]$(QA !4m^R!4
 lDA!eUgUBADAMAh&<UBADAMAqBALUDAg%1BALUDAm>o(.&5,sTT%f+)dNNAd:bP!kSSAdZ)DAcAHlTODO ]$TAcZHA
 r(mCHU ALI GALI G)O&5,sJ)OTTAdDDHAeTAcD)OSSAdCYAdZ)DAs]$%FUbYAq(mCHU ]$BHAt]$DAGALGAq(mCHU ]$LHA@1
 8B0zC~GOYcAYbAYdWAYdPOYcAYcWOYeTAYdKAYcWAYeMAYdNOYcAYdLAYdSOYcAYcHOYcAYcWOYfYOYcAYdRAYdNWIdO^7NWI
 lNWIIeO^7NWIImNWOdO^7NWOlNWOOeO^7N:GmRW,^%+*SAdO^7PbTbKbCbMbNbSaHkEAS&4 WjWES&4 Wj,~!O(ak,R!_
 qR,)RWEk&bLOOcAAnTHWEbAdTHWEcOOcAAeLHWEcOOfSAYISI)$WEcOOeHOOkC<6GWUdDENE GEEiGAAcWAlS]CJUUkC<6JWA
 lBEAV!ADENE LbRnC<6D!YAL S@19.FLIMBU %Z-C<6$bu!D+[YANd*H,6*F)Z+lcGYANe)_@1920k%q*2,^AIcOOcAUcEbO
 m^;%7&YWA@1930s!IL !D(.&5(QAiTAc&r)B%-&YLAoIGN MUKPHR)4jKEMPHR)4jSA-I@1940eLOO@1944i;Aq,on&S
 qTAI !N!D(.XAc&5<g,.%7T!k&NP!k%-*(V%!cQAc$_dT$:e&r>oEEbHcUbOObbUEcEbAUEcI@1970c)k-:l@1980uNEW TA
 I LUE !D%_QAh%gQA,;(.XAcNGAi%g(.XAcNGAh%_<g,.YA.2<g,.YA,;T!kNA.2T!kNA,;P!kMA.2P!kMA,;*((;LA.2*((;L
 A,;)D(,BA.2)D(,BA,;KVAdXVAi%gKVAdXVAhH!G SUAi!! SUA@19B0o%q%Z S$H$wERp%AIIcUaUc&_EcO$EUEcAYbAYdUY
 cOYbAYdUEYdIYn!D(4VbNGbbMbKbDbBo<m>i@19D0l,5THAM %H!4@19DEo%iLAEaVvKHMER&&P,yMASATk~*jPRAM KOET
 f-~*oDAP KOETf-~*jPRAM KOETnTUTEYASATj~)iPRAM ROCe-~)nDAP ROCe-~)iPRAM ROCzBUGIN;S!D<rNGAbKA
 e)B)xMAbPAd:bNAbRAd,s,uNYAbCAe*F(;,.!bj%q)Q=CAE@1A1En&=LAWAh)~OF[8xTAI THAM !D%_K!bcXAi%gKAbX%!
 h&5%_C!bi!! CAc,.%zh&[RATAe%_R,yk(,%gR,yj(TAe%_T!bi%gT!bh&r)x%_P!kFAh%g)B*(&xh%-%gYA,;YAhRAbUEdLA
 bUEd)ZH!G&KcSAc%!h%<dAb%gHAg(F,^OOcLAEd$uAT SAp;E>8&YLAjLA T!Z LAIzTAI T&$$F=zK!Z LAIr;E(4NGA
 j%gPA,;R,y %X%gPAu%-)xSA@1A60r!> SAKOTk%qAbMAI SATh%ATALL AAh%+UEbUEcaUcOaA !uhYc&_EcOOcAIcTHAM AI
 hOA !ot%i=zK!Zi)k-1b2gKHU$C)k-!smRA HAAMhMAI SAMhKHUEN-LUE KARAN@1A7Fu%I>(RYPTO!$MM!X!_zTAI THA
 M $HA &S@1A90pTHAM &S@1AA0p%iWI!ZaWAAKjSAWANfKEOWeHOYdDOKMAIg&H&e(TAv=zYAMOKjKAANaKUUhSATKAANaKUU
 kH!ZeCA!Z@1AB0t.G%cD (K).yIAERESIS-(ao_ci%u!Rp*U!_kX-X !ujWIGG(z&9!ur(I&k!up!](I&k!u
 w~B*j!u)b$4!F!h$-G C!YR<.$6*j>1(eSES !or!](eSES !oy(eSES !uf,ht.aW !uh%,W >1^C%J%:*u!p(e)u%J%t*u^C
 !u %:*u!p(e)u!u %t)b$4!F)U(vS !ov<k$F!or&<!]ARCH !o*u>?!op!]>?.&w*U:9).t.a:1GbRbT@1B00zBALINESE$FU
 LU +mEMfC!lRAkCECEKfSUR!ZgBISAHk!DAKARA>zmIKARA>zmUKARA>zmRA REPA>zoLA LENGA>zpEKARAfAIKARA
 gOKARA>zmKAa [!AmGAa GORAh&5CAa LACAhJAa JERAh&[,?!JIKfMURDA [!AsDA MURDA AL)^(TAj[!AsNA RAMBATjTA
 a TAWAhDAa MADUh&rPAa &QALiBAa KEMB!Zk%-*F)ZSA SAGAcPAfcHAj%iREREKANm%qTED%3gULUa SARIiSUKUa ILUT
 jRA REPA>zoLA LENGA>zpTAL!Fa REPAeTED%3gREPA TED%3sPEPET>zxADEG ADEGj!DKAF[NiHOT[NkTZIR[NkEF[N
 iVE[NiZAL[NjASYURA[NlR%z!XJNYA@1B50t,5PANTIdMADAgWINDUf&TIK PAM%3KAHjSIKIe$ZERENnPAMEN)4i)A+TD.X
 d)4d%3d!Za SUR!Zk!FdA)4eE%3eA!FdNG GEDEj.GTEGEHfENDEPfKEMPULcLIgJEGOGANhKEMPUL!EJEGOGANpLI!EJEGOGA
 NtBENDEf$=Go(^H!T(IDUGcAGi+>TUKcAKv(3H!T(IP!Zd%3j+>PLAKcUKl(IP!FzBALIN;SPANTI L&P!ZlMADA L&P!Z@1B8
 0xSUNDANESE$FPANYECEKfGLAYARfWISADo!D*2AEcObEaUc(.QAcGAc&5,s,uZAc&[:b&r)B*((;)x%-*F)Z,.X%!
 j;EPAM!FKALhNYAKRAeIKUw%qP!ZHULUfYUKUeAELA)4h(9GgMEPETfNEULE%3v%iPAMAAEHh*cl;EPAS!Z!:%-WAzSUNDAN;S
 !D$_dSYAk,5:3i!DREUdLEUdB)O(4KbMyBATAK !DAb?hAm)D?hHAn(mDAIL!PHAn)xKARO BAh)B?hPAn&r(mDAIL!PNA
 n)Z?hWAnPAKPAK WAjGAc?hGAn,u(,&Y?hRAn%-?hMAmOU;QN TAlNOR;QN TAlSAbI!I%3UN SAn(mDAIL!F SAn%7?hYA
 n&5&N?hLAn&[,sNDAdMBAdIbUi%iTOMPIk%qEbPAKPAK Ei,^IbKARO IgObKARO OgUa !K)a!I%3UN SAzBATAK.YSON&P$F
 NGcHqP!ZO!JfON$=AN@1BFCk=W$4DU NA METEKiPINARBORASkJUDULfP!ZO!JzLEP%z+VKAbL%!dGAbLAd*GA
 c&[T!k(,&rPAbL%!dFAbLAdBAbLAdMAbLAdTS%fDZAd%7&YL%!bLAd(;S!k)ZAi^;%7RAt*eIb*SUaUcEm;EKbMbLbNbPbRbT
 bNYIN-DOhK!Zt%i(TdNUKTA@1C3Bk;]TA-ROLgNYET THYOOM TA-ROLsCER-WAgTS$J CER-WAhs&S@1C4Dk!DTT%f+)
 rOL CHIKI ,5!D&NATbGbNGcLcLAAdAAKbJbMbWdLIcISbHbNYcRcLUcUCbDbNNcYcLEcEPbDDcNbRRdLOcOTTcBbVbH
 jMU TTUDDAGkGAAHLAA TTUDDAAGqMU-GAAHLAA TTUDDAAGtRELAAf&xARKAAiAHADe;]MUCAADg!]MUCAAD%$?XVE
 k+t-,<G!HDEoN$&OiWIDE EShTALL TEgH!x-,<G!HTEoALL H!S)nYATiUNBLEN)yUK@1C90zGEORG([MTAVRULI!d_-OEdFI
 cYNcELIFIf%,GANk)[@1CBDcENdH!S)nLABIAL!UzSUNDAN;S;]$4DU SURYAfP!Z+thURNAMAhCAKRAfLEU SAT!ZA
 lKA SAT!ZAkDA SAT!ZAkBA SAT!ZA@1CD0z:c&nKARSHANAi=2AfP:F$_m%iNIHSHVASAjYAJUR:cMID&U S$aITA
 z:c&nYAJUR:cAG!$V%*])z:c&nYAJUR:c])t)KHAKA ])z:c&nC<U!umYAJUR:c)KHAKA ]) SCHROE&Ez:c&n%c S$aITA
 o;k S$aITAo)KHAKA AN>_q.*j<yn(l!_S !uqRIG:cK&tMIRI ])z:c&nAT$.VA:c])zVEDIC$F*I S$aITAh>_o&H^R>_
 x^RAN>_q&H^RAN>_zVEDIC$F^R>_!E&RqAN>_!E&RzVEDIC$F(QA &PARGOMU$_mBAHIRGOMU$_mVAMAGOMU$_(b&R
 zVEDIC$FTIRYAKgHEXI)m&V(QAw&V(QAnRTH!Z &V(QAu(QA UBHAYATO MU$_wRDHA*Im&e!SHA*Iz:c&nC<U!or%i]^
 l!wK(]n&n;[k!];[w%i!](QA &PARGOMU$_*B00=lAaEx$n%,AEw*_>0BiCbDbETHcw$n%,(IEgIv*_JbKbL %pnMb&HNkO
 aP$CO,zIDE=bOaP$COf,qw%,OEw*_OUx$n*=%FOk,n%FO=lPb&HRk%,RhbUw.(IDE=bUbDIAERESIZ!HUn%,M=lVbWbZbEZH
 rVOIC!HLARYNGEAL)1IR&Py)[q[n*_GAM&y&aDAfPIcR*;$3zC$V!X*_ELz+P%sAaEcBaAR)%BiDbEb&HEkGbH)wb&HNkOaUcP
 bRbTbUbWj!6Ab%,Ai)Mf%,AEjBbDbEbS=Gf(IEg%,(IEnGb%,IiKbMb)4dOaP$COg*=%FOk,n%FOnPbTbUbSIDE=bUk%,MiV
 b)[dBETAe[nGAMMAlDELTAf[nPHIjCHI!Q_(IbRbUbV&D_(BETAeGAM&yR*;PHIdCHI!mUEcB!E.,t(G.,tF!E.,t$~.,t+5.,
 tP!E.,t*+.,m%(H(_!T.,?Q.,t&s.,tZ!E.,t%,Gz+PC$V!XEN!m:1Gj$k!-!hRIKE^f!Q!O$RI ;g*^,qqP %pu$RU ;gUPSI
 L!c%ptB!E.u(G.uF!E.uG!E.u.0.u)].u$~.u+5.uP!E.u*+.uS!E.uES$K+BvV!E.uX!E.uZ!E.u(Z)(uL&x!E=^(G(_!T&R
 u$d)(v(I$d=^&H(I$d)(,z=G!E=^*))(v(I&O=^ES$K)(x&J)(vEZ$K)([F%,)MmC(b,JlETHd&H(IEpFb;.J,qv+RGi%,H
 iI %pmOTAe%sIa %pvJ!E?Yt)])(o.u%sLj$~$Jl%,$~&V,<w+5!n$Jj)(v%sNj>0OiPHIdS)llESHd&s.uU !qe$3$Yh%sU
 jV)ll%,ViZ(b)(o,JlEZHd&mTA*u+Q>Q:9).tSNAKE !ukUS(0>p!8p&(-%ym&u-&(m&(-&um%y-&(m&u-%y-&ur%y-&u-%y
 r.aR >1)V-&(m&(-)Vm%c C!rUMFLEX !oxOG!4K !om]%!umIS !uiUR !ohS !oi.a^Y(IA !owA=CVcC CEDI%<j:1DjETH
 dGo*_Gw$nKbLo*_LbMw$nNo*_NbRw$nR ^LjSb+t SgZb)MfBaETAeS=GfFbL!E!].,*u.a&O~B$M*u.aPbESHd&J~B$M*u.aW
 b(Z&)q&O&)q&J&)*u$9>I!onKAVYKA %J%tf%:r![%J%:oWIDE &<](>1.* %:n)*)pmOUB!N&<:U>1:5%Y$2!uv!n:$!o
 u!p:$!T%N:$(6(Z&g(5(Z&g(6B;lB<tB;=B;>B!E&9(5B!E&9(6.z+f(++M.z+f(++g(G(<!m(G(<!7(G=H(G=I(G&9(5(G&9
 (6(G+f!m(G+f!7(G(K(5(G(K(6$d>R&u:%>R&u;Y>R+M$d>R+g$d(K(5$d(K(6$d)v(5$d)v(6$d+f(+)V:%+f(+)V!7F;lF<t
 G!E&(!mG!E=<$K(<!m$K(<!7$K=H$K=I$K&)!m$K&)!7$K+f!m$K+f!7$K:U(5$K:U(6*))v(5*))v(6*);I+M*);I+g.0+M.0
 +gK;=K;>.0&9(5.0&9(6L;=L;>L:V(+&(!mL:V(+=<)]&9(5)]&9(6)](K(5)](K(6$~+M$~+g$~(<!m$~(<!7$~=H$~=IN;lN
 <tN;=N;>+5&9(5+5&9(6+5(K(5+5(K(6&O)v!T+M&O)v!T+g&O)v!T&),d)v!T&),3>R&u,d>R&u,3>R+M&O>R+gP!E+MP!E+g
 P;lP<tR;lR<tR;=R;>R:V(+&(!mR:V(+=<*+&9(5*+&9!u:k)G,z)G:k:V,z:V:k!E:9!T(<?Q:9!T(<:k!E&T!c!T(<?Q&T!c
 !T(<:k:V(+(<,z:V(+(<!7&s(<!m&s(<!7&s=H&s=I&s&9(5&s&9(6&s(K(5&s(K(6&JDIAERE)u(5&JDIAERE)u(6&J)v(5&J
 )v(6&J(K(5&J(K(6&J)v!T+M&J)v!T+g&J>R&):L>R&)!7V!E&l!mV!E&l!7V;=V;>W!E&u!mW!E&u!7W!E+MW!E+gW!E&)!mW
 !E&)!7W;lW<tW;=W;>X;lX<tX!E&)!mX!E&)!7Y;lY<tZ!E+w!mZ!E+w!7Z;=Z;>Z!E&9(5Z!E&9!ur$K&9!ur&s&)qW!E;[
 r.V;[r(Z=1(aw+t S)GiIA$=AL$MpH!G$M:k$.P Sw$nDELTAs$RA;=A;>(Z+y;T+y<W*$+M(Z*$+g(Z*$&u;T*$&u<W*$+y;T
 *$+y<W*$&l;T*$&l<W*$=H(Z*$=I(Z:U!T+M(Z:U!T+g(Z:U!T&u;T:U!T&u<W:U!T+y;T:U!T+y<W:U!T&l;T:U!T&l<W:U!T
 =H(Z:U!T=I$d=H$d=I$d+y:%+y;Y&l:%&l;Y*$+M$d*$+g$d*$&u:%*$&u;Y*$+y:%*$+y;Y*$&l:%*$&l;Y*$=H$d*$=I*)+y
 !m*)+y!7I;=I;>O;=O;>&O+y,d+y,3*$+M&O*$+g&O*$&u,d*$&u,3*$+y,d*$+y,3*$&l,d*$&l,3*$=H&O*$=I&O,$+M&O,$
 +g&O,$&u,d,$&u,3,$+y,d,$+y,3,$&l,d,$&l,3,$=H&O,$=IU;=U;>&J+y:L+y:&,$+M&J,$+g&J,$&u:L,$&u:&,$+y:L,$
 +y:&,$&l:L,$&l:&,$=H&J,$=I.V&u!m.V&u!7Y;=Y;>.V+y!m.V+y!7.V&l!m.V&l!7_*LL!m_*LL!7_*V!m_*V!7.V.e!m.V
 .e:<.q?k=N.q?k:<+4_x18=N+4_x20:<:]?k=N:]?k:<>C?k=N>C?k:<.%_x48=N.%_x50:<=Z?k&:59=N=ZDASIA&:5B:o$aI
 A&:5DfOXIA&:5Fe*t:<.K?k=N.K?k:<.q.>p+4!E.>qTA!E.>n>C$aIAfOXIAo.%!E.>r=Z.>r.K.>&:80p.q~o;F.q]e;F.q
 ]f;F.q]d;F.q&0<s;F.q~L.q~p;G.q]e;G.q]f;G.q]d;G.q&0<s;G.q~M:]~o;F:]]e;F:]]f;F:]]d;F:]&0<s;F:]~L:]~p
 ;G:]]e;G:]]f;G:]]d;G:]&0<s;G:]~M.K~o;F.K]e;F.K]f;F.K]d;F.K&0<s;F.K~L.K~p;G.K]e;G.K]f;G.K]d;G.K&0<s
 ;G.K~M.q],~3&:B~:.q],.>e%vS&X.:KORONISh%vS&XnSILIeERISPO$hIl?<*t:<:]~3&:C~:+4!E.>qTA!E.>
 e%vS&X.:&0.>e*tv$n>C],?<.>&:D6s*tl?<*t=N>C],.>&:DD.:&z.>e*tv$n=Z],?<.>:<RHO!E$3LIfDASIAo=Z*t
 l?<*t=N=Z],.>rRHO!EDASIA.:?<.>s$aIA&:F2f$n.K~3&:F~:.%!E.>pEGA!E.>e%vS&X.:OXIAeDASIA@2000l$C):gM ):
 gN)1ACEhM.^i.Z-$v-EM.^s!+-$v-EM.^r$i-$v-EM.^qFIGURE.^m+i.^rTHIN.^k>n.^kZERO WIDTH.^fNON-?Gk?Gr_p!8
 s_&!8s;3gNON-%EAK!P;3tFIGURE .Ul$C.UgM .Uh=.o!]$7&Un%g&Up%:,i=U%t,i?7zS!F!N!!-9 ?7uH!G-[q-9 ?7+a!]
 =U>y=U!]!!-9 ?7uH!G-[q-9 =UDAGGERfOUB!NDAGGERn?(Tg.+]pr!^![LEADERo$f![LEADERo&1?]sYPHEN$z$Lr&U;f
 o]q;ft_pEMBEDD!Fx_&EMBEDD!FxPOP :!&c!B!LATT!Fz_p%9RIDEw_&%9RIDEwN$&NO-%EAK.^vP!A*DLE.d,A$*!UuRIME
 f!]?%m*U?%m&H?%f!]?%m*U?%v&TETfS!F!N<q(i?7zS!F!N:w(i=UREFERENCE !8o!];Ax)!ROB!Zl%9&Ui)<TIEi^pTIE
 mARET INSER%l$Lv]gMiHYPH$C]pnF$O&c<;o^NQUILLz^MQUILLz!],ouQUES%l+!&Wz+!$z,ozTI$-IAN$FETq&HPILC.1!U
 v$%$t]pq$Q]px%g)Jm;<$5EMIC(9s(y)LUPi$f)JS ALIGN!H!V!v%VY)bMERCI!B,7!UvSWUNG .Uk&<)<TIErF$0P(&&W
 x%1![+iv>d?%p%;![+it*K![+iu$f![+it%;![!8n+Q)tmTRIC(9i$7%;,Hs($%=HE%=ICAL.^z?M?GlFUNC%lAPPLIC$6
 uINVISIB!N$cSfSE$Z%.j)E.n66o_pISO!JEv_&ISO!JEvFIRST!h$-G ISO!JEuPOP :!&c!BISO!JExINHIBIT SYMMETRI
 C SWAPP!FzACTIVATE SYMMETRIC SWAPP!FzINHIBIT !t!X!L&KP!FzACTIV:h!t!X!L&KP!FzN$6!BDIGIT&KPES
 uOMIN!BDIGIT&KPESuS<AZEROe.aI.n74u!+dIVEe$i%Ge)E)n,7f,Ol>gr.aNz+d+R^Je)E)n,7f,Ol>g.n90!Q_(Ab=CX
 bS=GfHbK(%bPbSbT.nA0zEURO-&G:FCY!UsC(9)nRUZEIRO!UnF:FCH F(TC+JLIRA)nMILL)nNAIRA.dPESETA+IRUPEE.dWO
 N!UiNEW(LQEL!UpD.X)nEURO)nKIP!UiTUGRIK+IDRACHMA,cGERM!:(0NY+JPESO)nGUARANI,cAUSTRAL,cHRYVNIA,cCEDI
 )nLIVRE T!9NOIS!UtSPESMILO!Un$wGE.dINDI!:RUPEE+J$;K;PLIRA+JNORD!X!8!Uq(mAT.dRUBLE.dLARI)nBITCOIN!U
 mSOM!U.nD0i.G!n$.PO!c!os!p$.PO!c!ot&V$7&9,h)b$4:8:O$7&9,h*u:f:+)b>(*x:+v!n:+q!p:+pNG ,hmC*x&g,h
 w:f&g,h*u%1(-q%;(-pEN(yS!F(hgS!=Eg)qh(!]!*u<-:+wEN(yS:8+-ENg,ECAPgUPWARD ,f*u;<?&,hx!],e?D*uANNUIT
 Y$Wo*U)<!_pWIDE ](!or$t$&,hwONG %c?&,h*u=6:(S*u>%:(S*u!n$&!uq!p$&!ur]gK !o@2100yACC%ST OFjDDRESS!H
 $2&m*WJECTy]HCwEG!;CELSIUSoC!YRE &U$WrARE OFfDA UNAiEULER.YST&PoSCRUPLEhDEG!;FAH:FHEITr)dT!OGh%sH
 q^1Hw]HHx%?CK.YST&P,F$fPIz+R%sIq^1Iw+R%sLj!6LoL B !q$Wo]HNx=fO+IS)>)NORD(tOPY%ty[b%sPq]HPbQx+R%sR
 q^1Rw]HRx&I)d%lTAKErRESPONSEiSERV<S!8m^i!UnRADE !8!Up!VSICLEi]HZx%SCE)nHM!Ui&<OHM+J^1Zw%,G!xK!W*^
 zKELVIN+I!Z>9M!Un+R%sBq^1CwESTI%=ED$Wq)dT!OEh%sEbFq%,%sFq+R%sMj!6Oo$<$WlBET$WkGIMEL$WmDALET$W
 mIN!L$6 S!9CEs&e%sQrFACSIMILE!Uo%c-:pCK!OPIcGAMMAl%sGAM&yPIkN-ARY SUMM$6z$;NE$5_.GbLz;<$5_.L
 z$;NE$5_.Yz%c-:pCK [MDj!6DbEbIbJz%v$v&h&Un%,AM$vS!lq$v!UiAKTIESELSKABm$;NED!OFo=W!K SA!eITAN S!9CE
 zVULG$?+$!4 SEVENTHhNINTHf$wTHeHIRDj?qSk!^FIFTHj$fFIFTHSj(lFIFTHSm%;FIFTHSl!4)aXTHjFIVE)aXTHSl!^.O
 k%1.OSn(~.OSmSEV$C.OSz+$=fAT%X!4wROM!:[9%Oe$w[Kg_:l(~%Wm!^$*z!6ROM!:[9%Oe$w[Kg_:l(~%Wm!^$*
 zROM!:[9!^THOUS!TC Dq(~$*n,A$*m&H+L!m&HCzROM!:=fAL)aX !JE !LnFIF&hEAR(z!Lk$*o!^<xzVULG$?+$ZERO ,aD
 Sz%,%H]S@2190s$t!Rp%m!Rn$Q.9%u!Rp<-.9$9%N!Rn,M!Rk&8.9S+O!Rk(f.9$t$&%p+b$&%p,W<X!Ru$Q<X!R
 v$t$f$A!H=7$f$A!H!Ry$Q$f$A!H$S%u$f$A!H.D$]&R+b$]&R,W>My%m>Mw$Q]r%u>My$9%N$]BASEx=%$J+b$]$J,W$].e+b
 $].e+a!p<X!Rk$&%pz%u]%.b%m$];%^?=L;%^?$Q$]:-:(Sz=L:-;(Sz:f$1?v!r!N^B$1?v!r!N$S,M:S&V&?$t:S!q %D$Q
 :S&?:f[u^B[u.D(?<]Sh:(Sz%m(?=xSk;(Sz=6<]Sh:(Sz>.=xSk;(Sz$Q$&%D$t=7$&$t$m%u.D$&%D*P$t_Yx%m_Yv$Q_Y
 y%u_Yx$t$.PO!c%D$Q=;+b$.PO!c%D$t=;,W!]$&%p+a>y$&%p+b!]$&%p,W!].b%m;,u$Q;,x%u!].b<-;,x$9%N;,u,M;,
 r&8;,xS+O;,r(f;,x$t*U.b$Q*U!Rx;(S S_y!Ry=xS S_y=7$]%c$Mz=L%c$M,W<8.b%m<8!Ru$Q<8!Rx%u<8.b$t:S!q
 w$Q:S!qx$t$D!Rv%m$D!Rt$Q$D.b%u$D!Rv%m$D>Mi!cPEDESTAL(b=.o$7&?%m$D;,a !cPEDESTAL+b$D$&*~W%V
 z,M$&TO C%BERzS+O$&TO C%BERz$9%N$D!Rt!p$&*3%4z%u$&$t$m%m$S%1$Q!RSx=%*k+b$]*k+a!p$]*k,W$]!]*k+b$]!]
 *k+a!p$]!]*k,W)o$^.k)o$^$S<-)o$^!R"

end TextProtocol.Text.CharacterName
